import Clearance.Hierarchy

/-!
# Evaluating expressions

An expression is evaluated against a requester: the values held for each attribute, and the
hierarchy of each attribute, where there is one. Where these come from is left open: an
`Clearance.Requester` answers in a monad of its own, so a source that counts, logs or caches the
questions fits as well as a fixed one. Both connectives stop at the first operand that decides them,
and a hierarchy is asked for only when no held value equals the constant.

## Main definitions

* `Clearance.Requester` — what an expression is evaluated against.
* `Clearance.Requester.fixed`, `Clearance.Requester.traced` — the requester with given attributes
  and hierarchies, and the one that also records what it is asked.
* `Clearance.Expr.evaluate` — whether an expression admits a requester.
-/

namespace Clearance

/-- What an expression is evaluated against. -/
structure Requester (m : Type → Type) where
  /-- The values held for an attribute. -/
  values : Attribute → m (List Value)
  /-- The hierarchy of an attribute. -/
  hierarchy : Attribute → m (Option Hierarchy)

/-- A question to a requester. -/
inductive Query where
  /-- The values held for an attribute. -/
  | values (a : Attribute)
  /-- The hierarchy of an attribute. -/
  | hierarchy (a : Attribute)
deriving DecidableEq, Repr

namespace Requester

/-- The requester with given attributes and hierarchies. -/
def fixed (held : Attribute → List Value) (hierarchies : Attribute → Option Hierarchy) :
    Requester Id where
  values := held
  hierarchy := hierarchies

/-- The requester with given attributes and hierarchies that records the questions in their
order. -/
def traced (held : Attribute → List Value) (hierarchies : Attribute → Option Hierarchy) :
    Requester (StateM (List Query)) where
  values a := do
    modify (· ++ [.values a])
    return held a
  hierarchy a := do
    modify (· ++ [.hierarchy a])
    return hierarchies a

end Requester

namespace Expr

variable {m : Type → Type} [Monad m]

/-- Whether a requester satisfies a comparison. A constant is reached by itself and by the values
above it in the hierarchy of its attribute; it differs from a requester who holds some other
value. -/
def evaluateRelation (r : Requester m) (a : Attribute) (op : Operator) (v : Value) :
    ExceptT Error m Bool :=
  match op with
  | .eq => do
    let held ← r.values a
    if held.isEmpty then return false
    if held.contains v then return true
    match ← r.hierarchy a with
    | none => return false
    | some h =>
      let held ← r.values a
      return held.any fun w => h.reaches v w
  | .ne => do
    let held ← r.values a
    return held.any fun w => w ≠ v
  | op => throw (.unsupported (.ordering a op v))

/-- Whether an expression admits a requester. -/
def evaluate (r : Requester m) : Expr → ExceptT Error m Bool
  | .allow => return true
  | .deny => return false
  | .holds a => do
    let held ← r.values a
    return held.contains (.flag true)
  | .relation a op v => evaluateRelation r a op v
  | .and e f => do
    if ← e.evaluate r then f.evaluate r else return false
  | .or e f => do
    if ← e.evaluate r then return true else f.evaluate r
  | .bracket e => e.evaluate r

end Expr

end Clearance
