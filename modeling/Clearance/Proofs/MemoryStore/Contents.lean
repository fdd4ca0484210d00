import Clearance.Proofs.Resolution
import Clearance.Store.Memory

/-!
# The contents of a store in memory

A store in memory keeps, for every canonical pattern, what the last change said that was about the
pattern. The wildcards of its patterns stand where they may, and a pattern with a wildcard is only
there when the store says that such patterns were recorded. So the search through the five shapes of
a triple, with or without the wildcards, finds the most specific pattern that the triple matches.

## Main definitions

* `Clearance.Change.HasShape` — changes that stores in memory take.
* `Clearance.MemoryStore.lastLabels?` — what the last change about a pattern said.
* `Clearance.MemoryStore.Marked` — stores that know whether there are wildcards.
* `Clearance.MemoryStore.Holds` — stores that keep what changes said.
* `Clearance.MemoryStore.IsCandidate` — the patterns that a triple matches.

## Main results

* `Clearance.MemoryStore.Marked.apply`, `Clearance.MemoryStore.Holds.apply` — batches.
* `Clearance.MemoryStore.Marked.lookup_eq_full` — the wildcards that are not tried have no labels.
* `Clearance.MemoryStore.lastLabels?_of_entries` — entries that are added one by one.
* `Clearance.MemoryStore.Holds.lookup_eq`, `Clearance.MemoryStore.Holds.exists_lookup` — lookups.
-/

namespace Clearance

/-- The pattern that a change is about. -/
def Change.pattern : Change → Triple
  | .add pattern _ => pattern
  | .remove pattern => pattern

/-- The labels that a change records. -/
def Change.labels : Change → List Label
  | .add _ labels => labels
  | .remove _ => []

/-- The labels that a pattern has after a change that is about it. -/
def Change.outcome : Change → Option (List Label)
  | .add _ labels => some labels
  | .remove _ => none

/-- Whether a change adds labels for a pattern whose wildcards stand where they may, or removes
them. -/
def Change.HasShape : Change → Prop
  | .add pattern _ => ∃ shape, Shape.ofPattern? pattern = some shape
  | .remove _ => True

namespace MemoryStore

variable {m m' : MemoryStore} {cs batch : List Change} {c : Change} {q t : Triple} {ls : List Label}

/-- What the last of some changes said that was about a canonical pattern. -/
def lastLabels? (cs : List Change) (q : Triple) : Option (List Label) :=
  (cs.reverse.find? (·.pattern.canonical = q)).bind Change.outcome

theorem lastLabels?_concat (cs : List Change) (c : Change) (q : Triple) :
    lastLabels? (cs ++ [c]) q
      = if c.pattern.canonical = q then c.outcome else lastLabels? cs q := by
  rw [lastLabels?, List.reverse_append, List.reverse_singleton, List.singleton_append,
    List.find?_cons]
  by_cases hq : c.pattern.canonical = q
  · simp [hq]
  · simp [hq, lastLabels?]

/-- The last of some changes about a canonical pattern is one of them, and about the pattern. -/
theorem of_find?_last (h : cs.reverse.find? (·.pattern.canonical = q) = some c) :
    c ∈ cs ∧ c.pattern.canonical = q :=
  ⟨List.mem_reverse.1 (List.mem_of_find?_eq_some h), by simpa using List.find?_some h⟩

theorem exists_of_lastLabels? (h : lastLabels? cs q = some ls) :
    ∃ pattern, .add pattern ls ∈ cs ∧ pattern.canonical = q := by
  obtain ⟨c, hlast, houtcome⟩ := Option.bind_eq_some_iff.1 h
  obtain ⟨hmem, hq⟩ := of_find?_last hlast
  cases c with
  | add pattern labels =>
    cases houtcome
    exact ⟨pattern, hmem, hq⟩
  | remove pattern => cases houtcome

/-- **Entries that are added one by one**, in any order, are what is recorded then, if their
patterns are canonical. -/
theorem lastLabels?_of_entries {table : Triple → Option (List Label)}
    {entries : List (Triple × List Label)}
    (hentries : ∀ q ls, (q, ls) ∈ entries ↔ table q = some ls)
    (hcanonical : ∀ e ∈ entries, e.1.canonical = e.1) (q : Triple) :
    lastLabels? (entries.map fun e => .add e.1 e.2) q = table q := by
  unfold lastLabels?
  cases hlast :
      (entries.map fun e => Change.add e.1 e.2).reverse.find? (·.pattern.canonical = q) with
  | some c =>
    obtain ⟨hmem, hq⟩ := of_find?_last hlast
    obtain ⟨e, he, rfl⟩ := List.mem_map.1 hmem
    obtain rfl : e.1 = q := (hcanonical e he).symm.trans hq
    exact ((hentries _ _).1 he).symm
  | none =>
    cases htable : table q with
    | none => rfl
    | some ls =>
      have he := (hentries q ls).2 htable
      have hmem : Change.add q ls ∈ (entries.map fun e => Change.add e.1 e.2).reverse :=
        List.mem_reverse.2 (List.mem_map.2 ⟨_, he, rfl⟩)
      have hother := List.find?_eq_none.1 hlast _ hmem
      exact absurd (decide_eq_true (hcanonical _ he)) hother

theorem getElem?_insert_entries (entries : Std.ExtTreeMap Triple (List Label)) (q q' : Triple)
    (ls : List Label) : (entries.insert q ls)[q']? = if q = q' then some ls else entries[q']? := by
  simp only [Std.ExtTreeMap.getElem?_insert, Std.LawfulEqCmp.compare_eq_iff_eq]

theorem getElem?_erase_entries (entries : Std.ExtTreeMap Triple (List Label)) (q q' : Triple) :
    (entries.erase q)[q']? = if q = q' then none else entries[q']? := by
  simp only [Std.ExtTreeMap.getElem?_erase, Std.LawfulEqCmp.compare_eq_iff_eq]

/-! ### The mark for wildcards -/

/-- Whether the wildcards of all patterns stand where they may, and the store knows that there are
some. -/
def Marked (m : MemoryStore) : Prop :=
  ∀ q ls, m.entries[q]? = some ls → ∃ shape, Shape.ofPattern? q = some shape ∧
    (shape.hasWildcard = true → m.patternsLoaded = true)

theorem marked_empty : Marked {} := by
  intro q ls h
  rw [Std.ExtTreeMap.getElem?_empty] at h
  cases h

/-- A change of an entry sets the mark if it has to. -/
theorem Marked.change (h : m.Marked) (hchange : m.change c = .ok m') : m'.Marked := by
  intro q ls hq
  cases c with
  | add pattern labels =>
    rcases hshape : Shape.ofPattern? pattern with _ | shape
    · rw [MemoryStore.change, Shape.ofPattern, hshape] at hchange
      cases hchange
    rw [MemoryStore.change, Shape.ofPattern, hshape] at hchange
    cases hchange
    rw [getElem?_insert_entries] at hq
    split at hq
    · next heq =>
      refine ⟨shape, ?_, fun hwild => Bool.or_eq_true_iff.2 (.inr hwild)⟩
      rw [← heq, Shape.ofPattern?_canonical, hshape]
    · obtain ⟨shape', hshape', hloaded⟩ := h q ls hq
      exact ⟨shape', hshape', fun hwild => Bool.or_eq_true_iff.2 (.inl (hloaded hwild))⟩
  | remove pattern =>
    cases hchange
    rw [getElem?_erase_entries] at hq
    split at hq
    · cases hq
    · exact h q ls hq

/-- **The mark is set when it has to be**, also by batches that are refused in the middle. -/
theorem Marked.apply : ∀ {batch : List Change} {m : MemoryStore}, m.Marked →
    (m.apply batch).2.Marked
  | [], m, h => h
  | c :: batch, m, h => by
    rw [MemoryStore.apply]
    cases hchange : m.change c with
    | ok m₁ => exact (h.change hchange).apply
    | error e => exact h

/-! ### Contents -/

/-- Whether a store keeps what changes said. -/
structure Holds (cs : List Change) (m : MemoryStore) : Prop where
  /-- A pattern has the labels that the last change about it said. -/
  entries (q : Triple) : m.entries[q]? = lastLabels? cs q
  /-- The store knows the wildcards. -/
  marked : m.Marked

theorem holds_nil : Holds [] {} := ⟨fun _ => Std.ExtTreeMap.getElem?_empty, marked_empty⟩

/-- One change. -/
theorem Holds.change (h : Holds cs m) (hchange : m.change c = .ok m') : Holds (cs ++ [c]) m' := by
  refine ⟨fun q => ?_, h.marked.change hchange⟩
  cases c with
  | add pattern labels =>
    rcases hshape : Shape.ofPattern? pattern with _ | shape
    · rw [MemoryStore.change, Shape.ofPattern, hshape] at hchange
      cases hchange
    rw [MemoryStore.change, Shape.ofPattern, hshape] at hchange
    cases hchange
    rw [getElem?_insert_entries, lastLabels?_concat, h.entries q]
    rfl
  | remove pattern =>
    cases hchange
    rw [getElem?_erase_entries, lastLabels?_concat, h.entries q]
    rfl

/-- A batch of changes. -/
theorem Holds.apply : ∀ {batch : List Change} {cs : List Change} {m : MemoryStore}, Holds cs m →
    m.apply batch = (.ok (), m') → Holds (cs ++ batch) m'
  | [], cs, m, h, happly => by
    cases happly
    rwa [List.append_nil]
  | c :: batch, cs, m, h, happly => by
    rw [MemoryStore.apply] at happly
    cases hchange : m.change c with
    | error e =>
      rw [hchange] at happly
      cases happly
    | ok m₁ =>
      rw [hchange] at happly
      have hrest := Holds.apply (h.change hchange) happly
      rwa [List.append_assoc] at hrest

/-- A store in memory takes all changes of this kind. -/
theorem exists_apply_eq : ∀ {batch : List Change} (m : MemoryStore),
    (∀ c ∈ batch, c.HasShape) → ∃ m', m.apply batch = (.ok (), m')
  | [], m, _ => ⟨m, rfl⟩
  | c :: cs, m, hbatch => by
    have hchange : ∃ m', m.change c = .ok m' := by
      cases c with
      | add pattern labels =>
        obtain ⟨shape, hshape⟩ := hbatch _ List.mem_cons_self
        exact ⟨_, by rw [change, Shape.ofPattern, hshape]; rfl⟩
      | remove pattern => exact ⟨_, rfl⟩
    obtain ⟨m', hm'⟩ := hchange
    rw [apply, hm']
    exact exists_apply_eq m' fun c hc => hbatch c (List.mem_cons_of_mem _ hc)

/-! ### Lookups -/

/-- The labels that a store in memory has for the pattern of a shape. -/
def probe (m : MemoryStore) (_ : Shape) (key : Triple) : ExceptT Error Id (List Label) :=
  return m.entries.getD key []

theorem lookup_eq (m : MemoryStore) (t : Triple) :
    m.lookup t = (resolve t.canonical m.patternsLoaded m.probe).run := rfl

theorem lookup_of_not_concrete (ht : t.isConcrete = false) :
    m.lookup t = .error (.invalid (.lookupOfPattern t.canonical)) := by
  rw [← Triple.isConcrete_canonical] at ht
  rw [lookup_eq, resolve, if_neg (Bool.eq_false_iff.1 ht)]
  rfl

theorem getD_entries (m : MemoryStore) (q : Triple) :
    m.entries.getD q [] = m.entries[q]?.getD [] := Std.ExtTreeMap.getD_eq_getD_getElem?

/-- **The wildcards that are not tried have no labels.** -/
theorem Marked.lookup_eq_full (h : m.Marked) (t : Triple) :
    m.lookup t = (resolve t.canonical true m.probe).run := by
  rw [lookup_eq]
  refine run_resolve_eq_full fun hloaded shape hwild ht => ?_
  have hnone : m.entries[shape.project t.canonical]? = none := by
    rcases hq : m.entries[shape.project t.canonical]? with _ | ls
    · rfl
    obtain ⟨shape', hshape', hpatterns⟩ := h _ _ hq
    rw [Shape.ofPattern?_project ht] at hshape'
    cases hshape'
    rw [hpatterns hwild] at hloaded
    cases hloaded
  show Except.ok (m.entries.getD _ []) = _
  rw [getD_entries, hnone]
  rfl

/-- **A lookup finds the first shape that has labels.** -/
theorem Holds.lookup_eq (h : Holds cs m) (ht : t.isConcrete = true) :
    m.lookup t = .ok (firstNonempty
      (fun shape => (lastLabels? cs (shape.project t.canonical)).getD []) Shape.byPriority) := by
  rw [h.marked.lookup_eq_full]
  refine run_resolve_eq_firstNonempty nofun
    ((Triple.isConcrete_canonical t).trans ht) fun shape _ => ?_
  show Except.ok (m.entries.getD _ []) = _
  rw [getD_entries, h.entries]

/-- Whether a pattern with some labels, which it has after changes, is one that a triple matches. -/
structure IsCandidate (cs : List Change) (t q : Triple) (ls : List Label) : Prop where
  /-- The pattern has the labels. -/
  labels : lastLabels? cs q = some ls
  /-- There are any. -/
  ne_nil : ls ≠ []
  /-- The triple matches the pattern. -/
  isMatch : q.Matches t

/-- A candidate is what its shape makes of the triple. -/
theorem Holds.exists_shape (h : Holds cs m) (hq : IsCandidate cs t q ls) :
    ∃ shape, Shape.ofPattern? q = some shape ∧ q = shape.project t ∧
      m.entries.getD (shape.project t) [] = ls := by
  have hentry : m.entries[q]? = some ls := (h.entries q).trans hq.labels
  obtain ⟨shape, hshape, -⟩ := h.marked _ _ hentry
  have hproject := Shape.eq_project_of_matches hshape hq.isMatch
  exact ⟨shape, hshape, hproject, by rw [← hproject, getD_entries, hentry]; rfl⟩

/-- Labels that a store has for the pattern of a shape make the pattern a candidate. -/
theorem Holds.isCandidate_project (h : Holds cs m) {shape : Shape}
    (hls : m.entries.getD (shape.project t) [] = ls) (hne : ls ≠ []) :
    IsCandidate cs t (shape.project t) ls := by
  refine ⟨?_, hne, Shape.matches_project shape t⟩
  rw [getD_entries] at hls
  rw [← h.entries]
  rcases hq : m.entries[shape.project t]? with _ | ls'
  · rw [hq] at hls
    exact absurd hls.symm hne
  · rw [hq] at hls
    exact congrArg some hls

/-- **A lookup finds the most specific candidate:** its shape comes before those of all others. -/
theorem Holds.exists_lookup (h : Holds cs m) (ht : t.isConcrete = true) :
    ∃ ls, m.lookup t = .ok ls ∧
      ((ls = [] ∧ ∀ q ls', ¬ IsCandidate cs t.canonical q ls') ∨
        ∃ q shape, IsCandidate cs t.canonical q ls ∧ Shape.ofPattern? q = some shape ∧
          ∀ q' ls', IsCandidate cs t.canonical q' ls' → q' = q ∨
            ∃ shape', Shape.ofPattern? q' = some shape' ∧ shape.rank < shape'.rank) := by
  have ht' : t.canonical.isConcrete = true := (Triple.isConcrete_canonical t).trans ht
  have hprobe : ∀ shape : Shape, (m.probe shape (shape.project t.canonical)).run
      = .ok (m.entries.getD (shape.project t.canonical) []) := fun _ => rfl
  obtain ⟨ls, hrun, hspec⟩ := exists_run_firstAnswer hprobe Shape.byPriority
  refine ⟨ls, ?_, ?_⟩
  · rw [h.marked.lookup_eq_full, resolve, if_pos ht']
    exact hrun
  rcases hspec with ⟨rfl, hnone⟩ | ⟨hne, before, shape, after, hsplit, hls, hbefore⟩
  · refine .inl ⟨rfl, fun q ls' hq => ?_⟩
    obtain ⟨shape, -, -, hls'⟩ := h.exists_shape hq
    exact hq.ne_nil (hls'.symm.trans (hnone shape (Shape.mem_byPriority shape)))
  · refine .inr ⟨_, shape, h.isCandidate_project hls hne, Shape.ofPattern?_project ht' shape,
      fun q' ls' hq' => ?_⟩
    obtain ⟨shape', hshape', rfl, hls'⟩ := h.exists_shape hq'
    have hsorted := Shape.pairwise_byPriority
    have hmem := Shape.mem_byPriority shape'
    rw [hsplit] at hsorted hmem
    rcases List.mem_append.1 hmem with hearlier | hlater
    · exact absurd (hls'.symm.trans (hbefore shape' hearlier)) hq'.ne_nil
    · rcases List.mem_cons.1 hlater with rfl | hlater
      · exact .inl rfl
      · refine .inr ⟨shape', hshape', ?_⟩
        exact (List.pairwise_cons.1 (List.pairwise_append.1 hsorted).2.1).1 shape' hlater

end MemoryStore

end Clearance
