import Clearance.Proofs.Pattern

/-!
# The resolution of triples

The shapes are tried from the most to the least specific. When nothing is recorded for patterns with
wildcards it does not matter whether they are tried; and the labels that are found are those of the
first shape that has any, which is the shape of the most specific pattern that matches the triple.

## Main definitions

* `Clearance.Shape.rank` — the place of a shape among the shapes.
* `Clearance.Triple.Matches` — triples that match a pattern slot by slot.
* `Clearance.firstNonempty` — the labels of the first shape that has any.

## Main results

* `Clearance.Shape.matches_project`, `Clearance.Shape.eq_project_of_matches` — for every shape there
  is one pattern that a triple matches.
* `Clearance.run_resolve_full`, `Clearance.run_resolve_eq_full` — trying the wildcards in vain.
* `Clearance.exists_run_firstAnswer`, `Clearance.run_resolve_eq_firstNonempty`,
  `Clearance.eq_firstNonempty_of_run_resolve` — the labels are those of the first shape that has
  any.
-/

namespace Clearance

/-! ### Matching -/

/-- Whether a triple matches a pattern: every slot of the pattern is the wildcard or the same. -/
def Triple.Matches (q t : Triple) : Prop :=
  (q.s = .any ∨ q.s = t.s) ∧ (q.p = .any ∨ q.p = t.p) ∧ (q.o = .any ∨ q.o = t.o)

namespace Shape

variable {q t : Triple} {shape shape' : Shape}

/-- The place of a shape: subject, predicate and object come first, then subject and predicate, the
subject alone, the predicate alone, and nothing at all. -/
def rank : Shape → Nat
  | exact => 0
  | subjectPredicate => 1
  | subject => 2
  | predicate => 3
  | everything => 4

theorem pairwise_byPriority : byPriority.Pairwise fun a b => a.rank < b.rank := by decide

theorem mem_byPriority (shape : Shape) : shape ∈ byPriority := by
  cases shape <;> decide

/-- A triple matches what a shape makes of it. -/
theorem matches_project (shape : Shape) (t : Triple) : (shape.project t).Matches t := by
  cases shape <;> simp [project, Triple.Matches]

/-- A triple matches no other pattern of the shape. -/
theorem eq_project_of_matches (hshape : ofPattern? q = some shape) (hmatches : q.Matches t) :
    q = shape.project t := by
  have hslot {n m : Node} (hn : n.isConcrete = true) (h : n = .any ∨ n = m) : n = m := by
    rcases h with rfl | rfl
    · cases hn
    · rfl
  obtain ⟨s, p, o⟩ := q
  obtain ⟨hs, hp, ho⟩ := hmatches
  rw [← project_eq_self hshape]
  unfold ofPattern? at hshape
  split at hshape
  all_goals cases hshape
  · next hs' hp' ho' =>
    obtain ⟨rfl, rfl, rfl⟩ := And.intro (hslot hs' hs) (And.intro (hslot hp' hp) (hslot ho' ho))
    rfl
  · next hs' hp' _ => rw [project, project, hslot hs' hs, hslot hp' hp]
  · next hs' _ _ => rw [project, project, hslot hs' hs]
  · next _ hp' _ => rw [project, project, hslot hp' hp]
  · rfl

end Shape

/-! ### Trying shapes -/

variable {probe : Shape → Triple → ExceptT Error Id (List Label)} {t : Triple}

theorem run_firstAnswer_cons (probe : Shape → Triple → ExceptT Error Id (List Label)) (q : Triple)
    (shape : Shape) (shapes : List Shape) :
    (firstAnswer probe q (shape :: shapes)).run = match (probe shape (shape.project q)).run with
      | .error e => .error e
      | .ok ls => if ls.isEmpty then (firstAnswer probe q shapes).run else .ok ls := by
  rw [firstAnswer, ExceptT.run_bind]
  rcases (probe shape (shape.project q)).run with e | ls
  · rfl
  · show (if ls.isEmpty then firstAnswer probe q shapes else return ls).run = _
    split
    · next h => exact (if_pos h).symm
    · next h => exact (if_neg h).symm

/-- What is found has a property that all answers have. -/
theorem of_run_firstAnswer {P : List Label → Prop} (hnil : P []) {ls : List Label} :
    ∀ {shapes : List Shape},
      (∀ shape ls, (probe shape (shape.project t)).run = .ok ls → P ls) →
      (firstAnswer probe t shapes).run = .ok ls → P ls
  | [], _, hrun => by
    cases hrun
    exact hnil
  | shape :: shapes, h, hrun => by
    rw [run_firstAnswer_cons] at hrun
    cases hprobe : (probe shape (shape.project t)).run with
    | error e =>
      rw [hprobe] at hrun
      cases hrun
    | ok found =>
      rw [hprobe] at hrun
      dsimp only at hrun
      split at hrun
      · exact of_run_firstAnswer hnil h hrun
      · cases hrun
        exact h shape _ hprobe

theorem of_run_resolve {P : List Label → Prop} (hnil : P []) {loaded : Bool} {ls : List Label}
    (h : ∀ shape ls, (probe shape (shape.project t)).run = .ok ls → P ls)
    (hrun : (resolve t loaded probe).run = .ok ls) : P ls := by
  unfold resolve at hrun
  split at hrun
  · exact of_run_firstAnswer hnil h hrun
  · cases hrun

/-- A search in vain, which may end with an error of a kind. -/
theorem run_firstAnswer_of_forall {E : Error → Prop} : ∀ {shapes : List Shape},
    (∀ shape ∈ shapes, (probe shape (shape.project t)).run = .ok [] ∨
      ∃ e, E e ∧ (probe shape (shape.project t)).run = .error e) →
    (firstAnswer probe t shapes).run = .ok [] ∨
      ∃ e, E e ∧ (firstAnswer probe t shapes).run = .error e
  | [], _ => .inl rfl
  | shape :: shapes, h => by
    rw [run_firstAnswer_cons]
    rcases h shape List.mem_cons_self with hnil | ⟨e, he, herror⟩
    · rw [hnil]
      exact run_firstAnswer_of_forall fun shape' hmem => h shape' (List.mem_cons_of_mem _ hmem)
    · rw [herror]
      exact .inr ⟨e, he, rfl⟩

/-- Without the wildcards, only the triple itself is tried. -/
theorem run_resolve_exact (ht : t.isConcrete = true) :
    (resolve t false probe).run = (probe .exact t).run := by
  rw [resolve, if_pos ht]
  show (firstAnswer probe t [.exact]).run = _
  rw [run_firstAnswer_cons]
  show (match (probe .exact t).run with
    | .error e => Except.error e
    | .ok ls => if ls.isEmpty then .ok [] else .ok ls) = _
  rcases (probe .exact t).run with e | ls
  · rfl
  · cases ls with
    | nil => rfl
    | cons l ls => rfl

/-- **Trying the wildcards in vain:** when nothing is found for patterns with wildcards, they need
not be tried, except that trying them may end with an error. -/
theorem run_resolve_full {E : Error → Prop} {loaded : Bool}
    (h : loaded = false → t.isConcrete = true → (probe .exact t).run = .ok [] →
      ∀ shape : Shape, shape.hasWildcard = true → (probe shape (shape.project t)).run = .ok [] ∨
        ∃ e, E e ∧ (probe shape (shape.project t)).run = .error e) :
    (resolve t loaded probe).run = (resolve t true probe).run ∨
      (resolve t loaded probe).run = .ok [] ∧ ∃ e, E e ∧ (resolve t true probe).run = .error e := by
  by_cases ht : t.isConcrete = true
  · cases loaded with
    | true => exact .inl rfl
    | false =>
      have hfull : (resolve t true probe).run
          = (firstAnswer probe t (.exact :: Shape.byPriority.tail)).run := by
        rw [resolve, if_pos ht]
        rfl
      have hexact : (probe .exact (Shape.exact.project t)).run = (probe .exact t).run := rfl
      rw [run_resolve_exact ht, hfull, run_firstAnswer_cons, hexact]
      rcases hprobe : (probe .exact t).run with e | _ | ⟨l, ls⟩
      · exact .inl rfl
      · have hwild : ∀ shape ∈ Shape.byPriority.tail, shape.hasWildcard = true := by decide
        have hrest := run_firstAnswer_of_forall fun shape hmem =>
          h rfl ht hprobe shape (hwild shape hmem)
        exact hrest.imp Eq.symm fun herror => ⟨rfl, herror⟩
      · exact .inl rfl
  · rw [resolve, resolve, if_neg ht, if_neg ht]
    exact .inl rfl

/-- Without errors, the wildcards need not be tried at all. -/
theorem run_resolve_eq_full {loaded : Bool} (h : loaded = false → ∀ shape : Shape,
    shape.hasWildcard = true → t.isConcrete = true → (probe shape (shape.project t)).run = .ok []) :
    (resolve t loaded probe).run = (resolve t true probe).run := by
  have hfull := run_resolve_full (E := fun _ => False) fun hloaded ht _ shape hwild =>
    .inl (h hloaded shape hwild ht)
  exact hfull.resolve_right fun ⟨_, _, he, _⟩ => he

/-- The first of some shapes that has labels. -/
theorem exists_run_firstAnswer {labelsOf : Shape → List Label}
    (hprobe : ∀ shape : Shape, (probe shape (shape.project t)).run = .ok (labelsOf shape)) :
    ∀ shapes : List Shape, ∃ ls, (firstAnswer probe t shapes).run = .ok ls ∧
      ((ls = [] ∧ ∀ shape ∈ shapes, labelsOf shape = []) ∨
        ls ≠ [] ∧ ∃ before shape after, shapes = before ++ shape :: after ∧ labelsOf shape = ls ∧
          ∀ earlier ∈ before, labelsOf earlier = [])
  | [] => ⟨[], rfl, .inl ⟨rfl, by simp⟩⟩
  | shape :: shapes => by
    rw [run_firstAnswer_cons, hprobe]
    dsimp only
    rcases hls : labelsOf shape with _ | ⟨l, ls⟩
    · obtain ⟨ls, hrun, hspec⟩ := exists_run_firstAnswer hprobe shapes
      refine ⟨ls, hrun, ?_⟩
      rcases hspec with ⟨hnil, hall⟩ | ⟨hne, before, found, after, rfl, hfound, hbefore⟩
      · exact .inl ⟨hnil, by simpa [hls] using hall⟩
      · exact .inr ⟨hne, shape :: before, found, after, rfl, hfound, by simpa [hls] using hbefore⟩
    · exact ⟨l :: ls, rfl, .inr ⟨by simp, [], shape, shapes, rfl, hls, by simp⟩⟩

/-! ### The first shape that has labels -/

/-- The labels of the first of some shapes that has any, and no labels if there is none. -/
def firstNonempty (labelsOf : Shape → List Label) : List Shape → List Label
  | [] => []
  | shape :: shapes =>
    if (labelsOf shape).isEmpty then firstNonempty labelsOf shapes else labelsOf shape

section FirstNonempty

variable {labelsOf : Shape → List Label}

/-- Shapes without labels can be left out. -/
theorem firstNonempty_filter {f : Shape → Bool}
    (h : ∀ shape, f shape = false → labelsOf shape = []) :
    ∀ shapes, firstNonempty labelsOf (shapes.filter f) = firstNonempty labelsOf shapes
  | [] => rfl
  | shape :: shapes => by
    have hrest := firstNonempty_filter h shapes
    cases hshape : f shape with
    | true => rw [List.filter_cons_of_pos hshape, firstNonempty, firstNonempty, hrest]
    | false =>
      rw [List.filter_cons_of_neg (by simp [hshape]), hrest, firstNonempty, h shape hshape]
      rfl

theorem firstNonempty_probedShapes {loaded : Bool}
    (h : loaded = false → ∀ shape : Shape, shape.hasWildcard = true → labelsOf shape = []) :
    firstNonempty labelsOf (probedShapes loaded) = firstNonempty labelsOf Shape.byPriority := by
  refine firstNonempty_filter (fun shape hshape => ?_) _
  obtain ⟨hloaded, hwild⟩ := Bool.or_eq_false_iff.1 hshape
  exact h hloaded shape (by simpa using hwild)

theorem run_firstAnswer_eq_firstNonempty : ∀ {shapes : List Shape},
    (∀ shape ∈ shapes, (probe shape (shape.project t)).run = .ok (labelsOf shape)) →
      (firstAnswer probe t shapes).run = .ok (firstNonempty labelsOf shapes)
  | [], _ => rfl
  | shape :: shapes, hprobe => by
    rw [run_firstAnswer_cons, hprobe shape List.mem_cons_self, firstNonempty]
    dsimp only
    split
    · exact run_firstAnswer_eq_firstNonempty fun shape' hmem =>
        hprobe shape' (List.mem_cons_of_mem _ hmem)
    · rfl

theorem eq_firstNonempty_of_run_firstAnswer (hprobe : ∀ (shape : Shape) ls,
    (probe shape (shape.project t)).run = .ok ls → ls = labelsOf shape) {ls : List Label} :
    ∀ {shapes}, (firstAnswer probe t shapes).run = .ok ls → ls = firstNonempty labelsOf shapes
  | [], hrun => by
    cases hrun
    rfl
  | shape :: shapes, hrun => by
    rw [run_firstAnswer_cons] at hrun
    rw [firstNonempty]
    cases hfound : (probe shape (shape.project t)).run with
    | error e =>
      rw [hfound] at hrun
      cases hrun
    | ok found =>
      obtain rfl := hprobe shape found hfound
      rw [hfound] at hrun
      dsimp only at hrun
      split at hrun
      · next hempty =>
        rw [if_pos hempty]
        exact eq_firstNonempty_of_run_firstAnswer hprobe hrun
      · next hempty =>
        cases hrun
        rw [if_neg hempty]

variable {loaded : Bool}
  (hloaded : loaded = false → ∀ shape : Shape, shape.hasWildcard = true → labelsOf shape = [])

include hloaded

/-- **When the labels of all patterns are found that are tried**, those of the first pattern that
has any are given. -/
theorem run_resolve_eq_firstNonempty (ht : t.isConcrete = true)
    (hprobe : ∀ shape ∈ probedShapes loaded,
      (probe shape (shape.project t)).run = .ok (labelsOf shape)) :
    (resolve t loaded probe).run = .ok (firstNonempty labelsOf Shape.byPriority) := by
  rw [resolve, if_pos ht, run_firstAnswer_eq_firstNonempty hprobe,
    firstNonempty_probedShapes hloaded]

/-- **When labels are given**, they are those of the first pattern that has any, even if it would be
an error to try those after it. -/
theorem eq_firstNonempty_of_run_resolve (hprobe : ∀ (shape : Shape) ls,
    (probe shape (shape.project t)).run = .ok ls → ls = labelsOf shape) {ls : List Label}
    (hrun : (resolve t loaded probe).run = .ok ls) :
    ls = firstNonempty labelsOf Shape.byPriority := by
  unfold resolve at hrun
  split at hrun
  · rw [← firstNonempty_probedShapes hloaded]
    exact eq_firstNonempty_of_run_firstAnswer hprobe hrun
  · cases hrun

end FirstNonempty

end Clearance
