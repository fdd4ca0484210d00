import Clearance.Proofs.Dump
import Clearance.Proofs.PersistentStore.Alike
import Clearance.Proofs.PersistentStore.Contents

/-!
# The rows of a database as entries

A persistent store whose keys hold texts or numbers can list what it contains. Every row is one
entry: the key is read back as the pattern that it was written for, and the value as the labels that
are kept. A pattern has one row, and rows are the rows of patterns; so no entry is lost or listed
twice, be its list of labels empty or not.

## Main definitions

* `Clearance.WriteMode.recorded?` — what is recorded for patterns.
* `Clearance.PersistentStore.readable` — the entries of rows.

## Main results

* `Clearance.PersistentStore.entriesOfRows_eq` — rows that can all be read.
* `Clearance.PersistentStore.Contains.exists_row`, `Clearance.PersistentStore.Contains.entry_of_row`
  — the rows of patterns.
* `Clearance.PersistentStore.Contains.exists_listing` — what a store lists.
-/

namespace Clearance

/-- The labels that are recorded for a canonical pattern after some changes, if any were added. -/
def WriteMode.recorded? (mode : WriteMode) (cs : List Change) (q : Triple) : Option (List Label) :=
  if added cs q = [] then none else some (mode.merged cs q)

theorem WriteMode.recorded?_eq_some {mode : WriteMode} {cs : List Change} {q : Triple}
    {ls : List Label} : mode.recorded? cs q = some ls ↔
      (∃ pattern labels, .add pattern labels ∈ cs ∧ pattern.canonical = q) ∧
        mode.merged cs q = ls := by
  unfold recorded?
  split
  · next hnone =>
    refine iff_of_false nofun fun ⟨⟨pattern, labels, hmem, hq⟩, _⟩ => ?_
    have hadded := mem_added_of_add_mem hmem
    rw [hq, hnone] at hadded
    cases hadded
  · next hsome =>
    obtain ⟨labels, hlabels⟩ := List.exists_mem_of_ne_nil _ hsome
    obtain ⟨pattern, hpattern⟩ := mem_added hlabels
    rw [Option.some.injEq]
    exact (and_iff_right ⟨pattern, labels, hpattern⟩).symm

/-- A pattern for which nothing is recorded has no labels. -/
theorem WriteMode.getD_recorded? (mode : WriteMode) (cs : List Change) (q : Triple) :
    (mode.recorded? cs q).getD [] = mode.merged cs q := by
  unfold recorded?
  split
  · next hnone => exact (merged_of_added_eq_nil hnone).symm
  · rfl

namespace PersistentStore

variable {dir : String} {options : StoreOptions} {N : List Node} {cs : List Change} {c : Change}
  {s : PersistentStore} {db : Database} {space : Keyspace} {k v : Bytes}

/-! ### Rows -/

theorem mem_rows : (space, k, v) ∈ rows db ↔ db.find? space k = some v := by
  have hscan : (k, v) ∈ db.scan space ↔ db.find? space k = some v :=
    Std.ExtTreeMap.mem_toList_iff_getElem?_eq_some
  have hall : space ∈ Keyspace.all := by cases space <;> decide
  simp [rows, List.mem_flatMap, hscan, hall]

/-- Every key of a table has one row. -/
theorem pairwise_rows (db : Database) :
    (rows db).Pairwise fun row row' => ¬ (row.1 = row'.1 ∧ row.2.1 = row'.2.1) := by
  have hall : Keyspace.all.Pairwise fun space space' => space ≠ space' := by decide
  refine List.pairwise_flatMap.2 ⟨fun space _ => ?_, hall.imp fun hne row hrow row' hrow' => ?_⟩
  · have hkeys : (db.scan space).Pairwise fun row row' => ¬ compare row.1 row'.1 = .eq :=
      Std.ExtTreeMap.distinct_keys_toList
    refine List.pairwise_map.2 (hkeys.imp fun hne heq => hne ?_)
    exact Std.LawfulEqCmp.compare_eq_iff_eq.2 heq.2
  · obtain ⟨-, -, rfl⟩ := List.mem_map.1 hrow
    obtain ⟨-, -, rfl⟩ := List.mem_map.1 hrow'
    exact fun heq => hne heq.1

/-- The entries of the rows that can be read. -/
def readable (s : PersistentStore) (rows : List (Keyspace × Bytes × Bytes)) :
    List (Triple × List Label) :=
  rows.filterMap fun row => (s.entryOfRow row).toOption

/-- Rows that can all be read are listed. -/
theorem entriesOfRows_eq : ∀ {rows : List (Keyspace × Bytes × Bytes)},
    (∀ row ∈ rows, ∃ entry, s.entryOfRow row = .ok entry) →
      s.entriesOfRows rows = (s.readable rows, .ok ())
  | [], _ => rfl
  | row :: rows, h => by
    obtain ⟨entry, hentry⟩ := h row List.mem_cons_self
    have hrest := entriesOfRows_eq fun row' hrow => h row' (List.mem_cons_of_mem _ hrow)
    have hcons : s.readable (row :: rows) = entry :: s.readable rows :=
      List.filterMap_cons_some (by rw [hentry]; rfl)
    rw [entriesOfRows, hentry, hrest, hcons]

/-! ### The rows of patterns -/

namespace Contains

variable (h : Contains N cs s) (hcoherent : s.Coherent dir options)
  (hreversible : s.options.format.isReversible = true)

include h hcoherent hreversible

/-- **A pattern has a row**, which is read back as the pattern and its labels. -/
theorem exists_row (hc : c ∈ cs) : ∃ space k v shape, s.db.find? space k = some v ∧
    IsEntryOf s.options.format s.table space k c.pattern.canonical shape ∧
      s.entryOfRow (space, k, v)
        = .ok (c.pattern.canonical, s.options.mode.merged cs c.pattern.canonical) := by
  obtain ⟨e, hput, -, -, hfind⟩ := h.filed hc
  have hkey := decodeKey_of_key? hreversible hcoherent.grown hcoherent.fits hput.entry.shape_eq
    hput.writable hput.entry.key_eq
  rw [hput.entry.space_eq] at hkey
  refine ⟨_, _, _, _, hfind, hput.entry, ?_⟩
  rw [entryOfRow, hkey, h.decode_value]
  rfl

/-- **A row is the row of a pattern.** -/
theorem entry_of_row {row : Keyspace × Bytes × Bytes} (hrow : row ∈ rows s.db) : ∃ c ∈ cs, ∃ shape,
    IsEntryOf s.options.format s.table row.1 row.2.1 c.pattern.canonical shape ∧
      s.entryOfRow row
        = .ok (c.pattern.canonical, s.options.mode.merged cs c.pattern.canonical) := by
  obtain ⟨space, k, v⟩ := row
  have hfind := mem_rows.1 hrow
  obtain ⟨c, hc, shape, hentry⟩ := h.rows hfind
  -- The pattern has one row, so this is the one that is read back as its entry.
  obtain ⟨space', k', v', shape', hfind', hentry', hread⟩ := h.exists_row hcoherent hreversible hc
  obtain ⟨rfl, rfl⟩ := hentry'.row_eq hentry
  cases hfind.symm.trans hfind'
  exact ⟨c, hc, shape, hentry, hread⟩

/-- The entries that are read are what is recorded. -/
theorem mem_readable {q : Triple} {ls : List Label} :
    (q, ls) ∈ s.readable (rows s.db) ↔ s.options.mode.recorded? cs q = some ls := by
  rw [WriteMode.recorded?_eq_some, readable, List.mem_filterMap]
  constructor
  · rintro ⟨row, hrow, hls⟩
    obtain ⟨c, hc, shape, -, hread⟩ := h.entry_of_row hcoherent hreversible hrow
    rw [hread] at hls
    cases hls
    obtain ⟨e, hput, -⟩ := h.filed hc
    exact ⟨⟨c.pattern, c.labels, hput.change_eq ▸ hc, rfl⟩, rfl⟩
  · rintro ⟨⟨pattern, labels, hmem, rfl⟩, rfl⟩
    obtain ⟨space, k, v, shape, hfind, -, hread⟩ := h.exists_row hcoherent hreversible hmem
    exact ⟨(space, k, v), mem_rows.2 hfind, congrArg Except.toOption hread⟩

/-- No two rows are read as entries of one pattern. -/
theorem pairwise_readable : (s.readable (rows s.db)).Pairwise fun e f => e.1 ≠ f.1 := by
  refine List.pairwise_filterMap.2 ((pairwise_rows s.db).imp_of_mem ?_)
  rintro row row' hrow hrow' hne ⟨q, ls⟩ he ⟨q', ls'⟩ he' rfl
  obtain ⟨c, -, shape, hentry, hread⟩ := h.entry_of_row hcoherent hreversible hrow
  obtain ⟨c', -, shape', hentry', hread'⟩ := h.entry_of_row hcoherent hreversible hrow'
  rw [hread] at he
  rw [hread'] at he'
  have hsame : c'.pattern.canonical = c.pattern.canonical :=
    (congrArg Prod.fst (Option.some.inj he')).trans (congrArg Prod.fst (Option.some.inj he)).symm
  rw [hsame] at hentry'
  exact hne (hentry.row_eq hentry')

/-- **What a store lists** is sorted into the dump of what is recorded. -/
theorem exists_listing (hopen : s.closed = false) :
    ∃ entries, (listing.run s).1 = (entries, .ok ()) ∧ IsDump (s.options.mode.recorded? cs)
      (entries.mergeSort fun e f => (compare e.1 f.1).isLE) := by
  have hread : ∀ row ∈ rows s.db, ∃ entry, s.entryOfRow row = .ok entry := fun row hrow => by
    obtain ⟨c, -, shape, -, hread⟩ := h.entry_of_row hcoherent hreversible hrow
    exact ⟨_, hread⟩
  refine ⟨s.readable (rows s.db), ?_, isDump_mergeSort (h.pairwise_readable hcoherent hreversible)
    fun _ _ => h.mem_readable hcoherent hreversible⟩
  rw [run_listing hcoherent.access_eq, hreversible, hopen, ← entriesOfRows_eq hread]
  rfl

end Contains

end PersistentStore

end Clearance
