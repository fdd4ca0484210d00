import Clearance.Error

/-!
# Patterns and their resolution

Labels are recorded for *patterns*: triples in which wildcards may stand in some places only. The
five shapes that a pattern may have are ordered from the most to the least specific. The labels of a
concrete triple are those of the first pattern, in this order, that matches it and has any: each
shape turns the triple into the one pattern of that shape that matches it, and a *probe* answers
with the labels recorded for a pattern. While no pattern with a wildcard has been recorded, only the
triple itself has to be probed.

## Main definitions

* `Clearance.Shape`, `Clearance.Shape.ofPattern` — the shapes.
* `Clearance.Shape.project` — the pattern of a shape that matches a triple.
* `Clearance.resolve` — the labels of a triple.
-/

namespace Clearance

/-- The shapes of patterns. -/
inductive Shape where
  /-- Subject, predicate and object are given. -/
  | exact
  /-- Subject and predicate are given. -/
  | subjectPredicate
  /-- The subject is given. -/
  | subject
  /-- The predicate is given. -/
  | predicate
  /-- Nothing is given. -/
  | everything
deriving DecidableEq, Repr

namespace Shape

/-- The shapes, the most specific first. -/
def byPriority : List Shape := [exact, subjectPredicate, subject, predicate, everything]

/-- The shape of a pattern, if its wildcards stand where they may. -/
def ofPattern? (t : Triple) : Option Shape :=
  match t.s.isConcrete, t.p.isConcrete, t.o.isConcrete with
  | true, true, true => some exact
  | true, true, false => some subjectPredicate
  | true, false, false => some subject
  | false, true, false => some predicate
  | false, false, false => some everything
  | _, _, _ => none

/-- The shape of a pattern. -/
def ofPattern (t : Triple) : Except Error Shape :=
  match ofPattern? t with
  | some shape => .ok shape
  | none => .error (.invalid (.patternShape t))

/-- The name of a shape: a letter for a node that is given, a line for a wildcard. -/
def name : Shape → String
  | exact => "SPO"
  | subjectPredicate => "SP_"
  | subject => "S__"
  | predicate => "_P_"
  | everything => "___"

/-- Whether patterns of a shape have wildcards. -/
def hasWildcard (shape : Shape) : Bool := shape ≠ exact

/-- The pattern of a shape that a triple matches. -/
def project (shape : Shape) (t : Triple) : Triple :=
  match shape with
  | exact => t
  | subjectPredicate => ⟨t.s, t.p, .any⟩
  | subject => ⟨t.s, .any, .any⟩
  | predicate => ⟨.any, t.p, .any⟩
  | everything => ⟨.any, .any, .any⟩

end Shape

/-- The labels that the first probe with an answer gives, of the probes for the shapes of a list. -/
def firstAnswer {m : Type → Type} [Monad m] (probe : Shape → Triple → m (List Label))
    (t : Triple) : List Shape → m (List Label)
  | [] => return []
  | shape :: shapes => do
    let labels ← probe shape (shape.project t)
    if labels.isEmpty then firstAnswer probe t shapes else return labels

/-- The shapes that are probed, given whether wildcard patterns have been recorded. -/
def probedShapes (patternsLoaded : Bool) : List Shape :=
  Shape.byPriority.filter fun shape => patternsLoaded || !shape.hasWildcard

/-- The labels of a concrete triple. Patterns with wildcards are probed only if `patternsLoaded`
holds. -/
def resolve {m : Type → Type} [Monad m] (t : Triple) (patternsLoaded : Bool)
    (probe : Shape → Triple → ExceptT Error m (List Label)) : ExceptT Error m (List Label) :=
  if t.isConcrete then firstAnswer probe t (probedShapes patternsLoaded)
  else throw (.invalid (.lookupOfPattern t))

end Clearance
