import Clearance.Proofs.MemoryStore.Contents

/-!
# Batches of changes

A store in memory makes the changes of a batch one after the other. When all their patterns have
wildcards only where they may, all changes take effect, in their order. A change that is refused
ends the work, and what the changes before it did stays: the store is then as if they alone had been
the batch. So a batch that fails leaves the store as it was if its first change is refused, and in
general only if the changes before the refused one changed nothing.

## Main definitions

* `Clearance.MemoryStore.lastChange?` — the last change about a pattern.
* `Clearance.MemoryStore.Took` — stores after changes that have all taken effect.

## Main results

* `Clearance.MemoryStore.Took.change` — one more change.
* `Clearance.MemoryStore.apply_append`, `Clearance.MemoryStore.apply_eq_ok_iff` — batches in two
  parts, and batches that succeed.
* `Clearance.MemoryStore.batches_end_at_refusals`
-/

namespace Clearance

/-- Whether a change records labels for a pattern with wildcards. -/
def Change.marksWildcard : Change → Bool
  | .add pattern _ => (Shape.ofPattern? pattern).any Shape.hasWildcard
  | .remove _ => false

namespace MemoryStore

variable {m m' m₁ : MemoryStore} {batch before after cs : List Change} {c : Change} {q : Triple}
  {e : Error}

/-- The last of some changes that is about a canonical pattern. -/
def lastChange? (cs : List Change) (q : Triple) : Option Change :=
  cs.reverse.find? (·.pattern.canonical = q)

/-- Whether the second store is the first one after all of some changes have taken effect, in their
order: a pattern has what the last change about it said, and the mark for wildcards is set if one of
the changes sets it. -/
structure Took (cs : List Change) (m m' : MemoryStore) : Prop where
  /-- What patterns have. -/
  entries (q : Triple) : m'.entries[q]? = (lastChange? cs q).elim m.entries[q]? Change.outcome
  /-- The mark for wildcards. -/
  patternsLoaded : m'.patternsLoaded = (m.patternsLoaded || cs.any Change.marksWildcard)

theorem lastChange?_concat (cs : List Change) (c : Change) (q : Triple) :
    lastChange? (cs ++ [c]) q = if c.pattern.canonical = q then some c else lastChange? cs q := by
  rw [lastChange?, List.reverse_append, List.reverse_singleton, List.singleton_append,
    List.find?_cons]
  by_cases hq : c.pattern.canonical = q
  · simp [hq]
  · simp [hq, lastChange?]

theorem took_nil (m : MemoryStore) : Took [] m m := ⟨fun _ => rfl, (Bool.or_false _).symm⟩

/-- The effect of changes is all there is to a store after them. -/
theorem Took.eq (h : Took cs m m') (h' : Took cs m m₁) : m' = m₁ := by
  obtain ⟨entries', loaded'⟩ := m'
  obtain ⟨entries₁, loaded₁⟩ := m₁
  obtain rfl : entries' = entries₁ := by
    ext1 q
    exact (h.entries q).trans (h'.entries q).symm
  obtain rfl : loaded' = loaded₁ := h.patternsLoaded.trans h'.patternsLoaded.symm
  rfl

/-! ### One change -/

/-- The only changes that are refused are those that record labels for a pattern with a wildcard
where none may stand. -/
theorem change_eq_error_iff : m.change c = .error e ↔
    ∃ pattern labels, c = .add pattern labels ∧ Shape.ofPattern? pattern = none ∧
      e = .invalid (.patternShape pattern) := by
  cases c with
  | add pattern labels =>
    rw [change, Shape.ofPattern]
    cases hshape : Shape.ofPattern? pattern with
    | some shape => simp [bind, Except.bind, pure, Except.pure, hshape]
    | none =>
      simp only [bind, Except.bind, Except.error.injEq, Change.add.injEq]
      constructor
      · intro h
        exact ⟨pattern, labels, ⟨rfl, rfl⟩, hshape, h.symm⟩
      · rintro ⟨_, _, ⟨rfl, rfl⟩, -, h⟩
        exact h.symm
  | remove pattern => simp [change]

theorem hasShape_of_change (h : m.change c = .ok m') : c.HasShape := by
  cases c with
  | add pattern labels =>
    cases hshape : Shape.ofPattern? pattern with
    | some shape => exact ⟨shape, hshape⟩
    | none =>
      rw [change, Shape.ofPattern, hshape] at h
      cases h
  | remove pattern => trivial

/-- **One more change takes effect** after the others. -/
theorem Took.change (h : Took cs m m₁) (hchange : m₁.change c = .ok m') :
    Took (cs ++ [c]) m m' := by
  cases c with
  | add pattern labels =>
    obtain ⟨shape, hshape⟩ := hasShape_of_change hchange
    rw [MemoryStore.change, Shape.ofPattern, hshape] at hchange
    cases hchange
    refine ⟨fun q => ?_, ?_⟩
    · rw [getElem?_insert_entries, lastChange?_concat, h.entries q]
      by_cases hq : pattern.canonical = q <;> simp [hq, Change.pattern, Change.outcome]
    · rw [List.any_append, ← Bool.or_assoc, ← h.patternsLoaded]
      simp [Change.marksWildcard, hshape]
  | remove pattern =>
    cases hchange
    refine ⟨fun q => ?_, ?_⟩
    · rw [getElem?_erase_entries, lastChange?_concat, h.entries q]
      by_cases hq : pattern.canonical = q <;> simp [hq, Change.pattern, Change.outcome]
    · rw [List.any_append, ← Bool.or_assoc, ← h.patternsLoaded]
      simp [Change.marksWildcard]

/-! ### Batches -/

/-- A batch in two parts, of which the first one succeeds. -/
theorem apply_append (h : m.apply before = (.ok (), m₁)) (after : List Change) :
    m.apply (before ++ after) = m₁.apply after := by
  induction before generalizing m with
  | nil =>
    cases h
    rfl
  | cons c before ih =>
    rw [apply] at h
    rw [List.cons_append, apply]
    cases hchange : m.change c with
    | ok m₂ =>
      rw [hchange] at h
      exact ih h
    | error e =>
      rw [hchange] at h
      cases h

theorem Took.apply (h : Took cs m m₁) (happly : m₁.apply batch = (.ok (), m')) :
    Took (cs ++ batch) m m' := by
  induction batch generalizing cs m₁ with
  | nil =>
    cases happly
    rwa [List.append_nil]
  | cons c batch ih =>
    rw [MemoryStore.apply] at happly
    cases hchange : m₁.change c with
    | ok m₂ =>
      rw [hchange] at happly
      rw [← List.singleton_append, ← List.append_assoc]
      exact ih (h.change hchange) happly
    | error e =>
      rw [hchange] at happly
      cases happly

theorem hasShape_of_apply (h : m.apply batch = (.ok (), m')) : ∀ c ∈ batch, c.HasShape := by
  induction batch generalizing m with
  | nil => simp
  | cons c batch ih =>
    rw [apply] at h
    cases hchange : m.change c with
    | ok m₁ =>
      rw [hchange] at h
      exact List.forall_mem_cons.2 ⟨hasShape_of_change hchange, ih h⟩
    | error e =>
      rw [hchange] at h
      cases h

/-- **A batch succeeds if no change in it is refused**, and then all of them take effect. -/
theorem apply_eq_ok_iff :
    m.apply batch = (.ok (), m') ↔ (∀ c ∈ batch, c.HasShape) ∧ Took batch m m' := by
  refine ⟨fun h => ⟨hasShape_of_apply h, (took_nil m).apply h⟩, fun ⟨hshape, htook⟩ => ?_⟩
  obtain ⟨m₁, h₁⟩ := exists_apply_eq m hshape
  rw [h₁, ((took_nil m).apply h₁).eq htook]

/-- A batch that fails has a first change that is refused, and the changes before it succeed. -/
theorem apply_eq_error_iff : m.apply batch = (.error e, m') ↔
    ∃ before c after, batch = before ++ c :: after ∧ m.apply before = (.ok (), m') ∧
      m'.change c = .error e := by
  constructor
  · intro h
    induction batch generalizing m with
    | nil => cases h
    | cons c batch ih =>
      rw [apply] at h
      cases hchange : m.change c with
      | ok m₁ =>
        rw [hchange] at h
        obtain ⟨before, c', after, rfl, hbefore, hrefused⟩ := ih h
        refine ⟨c :: before, c', after, rfl, ?_, hrefused⟩
        rw [apply, hchange]
        exact hbefore
      | error e' =>
        rw [hchange] at h
        cases h
        exact ⟨[], c, batch, rfl, rfl, hchange⟩
  · rintro ⟨before, c, after, rfl, hbefore, hrefused⟩
    rw [apply_append hbefore, apply, hrefused]

/-- **A batch ends at the first change that is refused.** It succeeds exactly if no change in it is
refused, and then all its changes have taken effect in their order. It fails exactly if some change
in it records labels for a pattern with a wildcard where none may stand; then the changes before the
first such one have taken effect, and nothing else. -/
theorem batches_end_at_refusals (m : MemoryStore) (batch : List Change) :
    (∀ m', m.apply batch = (.ok (), m') ↔ (∀ c ∈ batch, c.HasShape) ∧ Took batch m m') ∧
    ∀ e m', m.apply batch = (.error e, m') ↔
      ∃ before pattern labels after, batch = before ++ .add pattern labels :: after ∧
        Shape.ofPattern? pattern = none ∧ e = .invalid (.patternShape pattern) ∧
        (∀ c ∈ before, c.HasShape) ∧ Took before m m' := by
  refine ⟨fun m' => apply_eq_ok_iff, fun e m' => apply_eq_error_iff.trans ⟨?_, ?_⟩⟩
  · rintro ⟨before, c, after, rfl, hbefore, hrefused⟩
    obtain ⟨pattern, labels, rfl, hshape, rfl⟩ := change_eq_error_iff.1 hrefused
    exact ⟨before, pattern, labels, after, rfl, hshape, rfl, apply_eq_ok_iff.1 hbefore⟩
  · rintro ⟨before, pattern, labels, after, rfl, hshape, rfl, hbefore⟩
    exact ⟨before, _, after, rfl, apply_eq_ok_iff.2 hbefore,
      change_eq_error_iff.2 ⟨pattern, labels, rfl, hshape, rfl⟩⟩

/-- **A batch that fails can leave changes behind:** its first change stays, with the mark for
wildcards, when its second one is refused. -/
theorem failed_batch_leaves_changes :
    let kept : Triple := ⟨.uri "s", .uri "p", .any⟩
    let refused : Triple := ⟨.uri "s", .any, .uri "o"⟩
    let labels : List Label := [.ofText "role=admin"]
    let before : MemoryStore := {}
    let after : MemoryStore := (before.apply [.add kept labels, .add refused labels]).2
    (before.apply [.add kept labels, .add refused labels]).1
      = .error (.invalid (.patternShape refused)) ∧
      before.entries[kept]? = none ∧ after.entries[kept]? = some labels ∧
      before.patternsLoaded = false ∧ after.patternsLoaded = true := by
  intro kept refused labels before after
  exact ⟨rfl, by decide +kernel, by decide +kernel, rfl, rfl⟩

end MemoryStore

end Clearance
