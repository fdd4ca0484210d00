import Clearance.Node.Canonical
import Clearance.Pattern

/-!
# Patterns and their shapes

A pattern of a certain shape is what the shape makes of it, and a shape makes of every concrete
triple a pattern of that shape. Canonical forms keep the shape.

## Main definitions

* `Clearance.Triple.nodes` — the nodes of a triple.

## Main results

* `Clearance.Shape.project_eq_self`, `Clearance.Shape.ofPattern?_project` — shapes and what they
  make of triples.
* `Clearance.Shape.ofPattern?_canonical` — canonical forms keep the shape.
-/

namespace Clearance

variable {q t : Triple} {shape : Shape}

/-- The nodes of a triple, in order. -/
def Triple.nodes (t : Triple) : List Node := [t.s, t.p, t.o]

theorem Node.eq_any_of_not_isConcrete {n : Node} (h : n.isConcrete = false) : n = .any := by
  simpa [Node.isConcrete] using h

theorem Node.isConcrete_canonical (n : Node) : n.canonical.isConcrete = n.isConcrete := by
  rcases n with iri | l | label | _
  · rfl
  · rfl
  · rfl
  · rfl

theorem Triple.isConcrete_canonical (t : Triple) : t.canonical.isConcrete = t.isConcrete := by
  simp only [Triple.isConcrete, Triple.canonical, Node.isConcrete_canonical]

namespace Shape

theorem ofPattern?_canonical (q : Triple) : ofPattern? q.canonical = ofPattern? q := by
  simp only [ofPattern?, Triple.canonical, Node.isConcrete_canonical]

/-- A pattern of a shape is what the shape makes of it. -/
theorem project_eq_self (h : ofPattern? q = some shape) : shape.project q = q := by
  obtain ⟨s, p, o⟩ := q
  unfold ofPattern? at h
  split at h
  all_goals cases h
  · rfl
  · next _ _ ho =>
    obtain rfl : o = .any := Node.eq_any_of_not_isConcrete ho
    rfl
  · next _ hp ho =>
    obtain rfl : p = .any := Node.eq_any_of_not_isConcrete hp
    obtain rfl : o = .any := Node.eq_any_of_not_isConcrete ho
    rfl
  · next hs _ ho =>
    obtain rfl : s = .any := Node.eq_any_of_not_isConcrete hs
    obtain rfl : o = .any := Node.eq_any_of_not_isConcrete ho
    rfl
  · next hs hp ho =>
    obtain rfl : s = .any := Node.eq_any_of_not_isConcrete hs
    obtain rfl : p = .any := Node.eq_any_of_not_isConcrete hp
    obtain rfl : o = .any := Node.eq_any_of_not_isConcrete ho
    rfl

/-- A pattern of the most specific shape has no wildcards. -/
theorem isConcrete_of_exact (h : ofPattern? q = some .exact) : q.isConcrete = true := by
  unfold ofPattern? at h
  split at h
  · next hs hp ho => rw [Triple.isConcrete, hs, hp, ho]; rfl
  all_goals cases h

theorem hasWildcard_of_not_isConcrete (h : ofPattern? q = some shape) (hq : q.isConcrete = false) :
    shape.hasWildcard = true := by
  cases shape with
  | exact =>
    rw [isConcrete_of_exact h] at hq
    cases hq
  | _ => rfl

theorem ofPattern?_project (ht : t.isConcrete = true) (shape : Shape) :
    ofPattern? (shape.project t) = some shape := by
  have hany : Node.any.isConcrete = false := rfl
  simp only [Triple.isConcrete, Bool.and_eq_true] at ht
  obtain ⟨⟨hs, hp⟩, ho⟩ := ht
  cases shape <;> simp only [project, ofPattern?, hs, hp, ho, hany]

theorem nodes_project_subset (shape : Shape) (t : Triple) :
    (shape.project t).nodes ⊆ .any :: t.nodes := by
  cases shape <;> simp [project, Triple.nodes]

theorem ofPattern_eq_ok : ofPattern q = .ok shape ↔ ofPattern? q = some shape := by
  unfold ofPattern
  rcases ofPattern? q with _ | shape
  · simp
  · simp

end Shape

end Clearance
