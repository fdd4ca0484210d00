import Clearance.Expr.Eval

/-!
# Related evaluations

Two requesters may answer in ways of their own. If their answers are related by a relation between
computations that goes from the first part of a computation to the whole, expressions are evaluated
alike against them, up to that relation.

## Main definitions

* `Clearance.Requester.Related` — requesters with related answers.

## Main results

* `Clearance.Requester.Related.evaluate` — evaluations against such requesters.
-/

namespace Clearance.Requester

variable {m n : Type → Type} [Monad m] [Monad n]

/-- Requesters whose answers are related, by a relation that goes from answers to what is done with
them. -/
structure Related (R : ∀ {α : Type}, ExceptT Error m α → ExceptT Error n α → Prop) (r : Requester m)
    (r' : Requester n) : Prop where
  pure (b : Bool) : R (pure b) (pure b)
  ordering (a : Attribute) (op : Operator) (v : Value) :
    R (α := Bool) (throw (.unsupported (.ordering a op v)))
      (throw (.unsupported (.ordering a op v)))
  bind {α : Type} {x : ExceptT Error m α} {y : ExceptT Error n α} {f : α → ExceptT Error m Bool}
    {g : α → ExceptT Error n Bool} (hx : R x y) (hf : ∀ a, R (f a) (g a)) : R (x >>= f) (y >>= g)
  values (a : Attribute) : R (liftM (r.values a)) (liftM (r'.values a))
  hierarchy (a : Attribute) : R (liftM (r.hierarchy a)) (liftM (r'.hierarchy a))

namespace Related

variable {R : ∀ {α : Type}, ExceptT Error m α → ExceptT Error n α → Prop} {r : Requester m}
  {r' : Requester n}

theorem evaluateRelation (h : Related R r r') (a : Attribute) (op : Operator) (v : Value) :
    R (Expr.evaluateRelation r a op v) (Expr.evaluateRelation r' a op v) := by
  cases op with
  | eq =>
    refine h.bind (h.values a) fun held => ?_
    split
    · exact h.pure _
    split
    · exact h.pure _
    refine h.bind (h.hierarchy a) fun h? => ?_
    cases h? with
    | none => exact h.pure _
    | some _ => exact h.bind (h.values a) fun held => h.pure _
  | ne => exact h.bind (h.values a) fun held => h.pure _
  | lt => exact h.ordering a .lt v
  | le => exact h.ordering a .le v
  | gt => exact h.ordering a .gt v
  | ge => exact h.ordering a .ge v

/-- **Evaluations are related like the answers** of the requesters. -/
theorem evaluate (h : Related R r r') : ∀ e : Expr, R (e.evaluate r) (e.evaluate r')
  | .allow => h.pure _
  | .deny => h.pure _
  | .holds a => h.bind (h.values a) fun _ => h.pure _
  | .relation a op v => h.evaluateRelation a op v
  | .and e f => by
    refine h.bind (h.evaluate e) fun v => ?_
    cases v with
    | true => exact h.evaluate f
    | false => exact h.pure _
  | .or e f => by
    refine h.bind (h.evaluate e) fun v => ?_
    cases v with
    | true => exact h.pure _
    | false => exact h.evaluate f
  | .bracket e => h.evaluate e

end Related

end Clearance.Requester
