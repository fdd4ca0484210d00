import Clearance.Request

/-!
# Filters

A filter decides which triples a requester may see: those whose labels all admit the requester. A
*policy* says what stands in for an empty list of labels, and what holds where labels are not kept
at all. The labels of a triple come from outside, in a monad of its own.

## Main definitions

* `Clearance.Policy`, `Clearance.Policy.effective` — policies.
* `Clearance.Filter.admits` — whether a triple is visible.
* `Clearance.Filter.visible` — the visible triples of a list.
-/

namespace Clearance

/-- What holds where nothing is recorded. -/
structure Policy where
  /-- The label that stands in for an empty list. Without it an empty list denies. -/
  defaultLabel : Option Label := none
  /-- Whether triples are visible where labels are not kept. -/
  admitsUnlabelled : Bool := true
deriving DecidableEq, Repr

/-- The labels that have to admit the requester, given those that are recorded. -/
def Policy.effective (p : Policy) : List Label → List Label
  | [] => [p.defaultLabel.getD Label.deny]
  | ls => ls

/-- What decides on the triples of one request. -/
structure Filter (m : Type → Type) where
  /-- The request. -/
  request : Request
  /-- The policy. -/
  policy : Policy
  /-- The labels recorded for a triple, or nothing where labels are not kept. -/
  labels? : Triple → ExceptT Error m (Option (List Label))

namespace Filter

/-- Whether a triple is visible, given what is recorded for it. -/
def judge (rq : Request) (p : Policy) (t : Triple) : Option (List Label) → SessionM Bool
  | none => do
    rq.note (.labelsNotConfigured t p.admitsUnlabelled)
    return p.admitsUnlabelled
  | some recorded => do
    match ← rq.firstDenial (p.effective recorded) with
    | some l =>
      rq.note (.tripleDenied t l)
      return false
    | none =>
      rq.note (.tripleVisible t)
      return true

variable {m : Type → Type} [Monad m]

/-- Whether a triple is visible. -/
def admits (f : Filter m) (t : Triple) : ExceptT Error (StateT Session m) Bool := do
  let recorded ← ExceptT.mk (StateT.lift (f.labels? t).run)
  ExceptT.mk fun s => pure ((judge f.request f.policy t recorded).run.run s)

/-- The visible triples of a list. The first failure ends the work. -/
def visible (f : Filter m) : List Triple → ExceptT Error (StateT Session m) (List Triple)
  | [] => return []
  | t :: ts => do
    if ← f.admits t then
      return t :: (← f.visible ts)
    else f.visible ts

end Filter

end Clearance
