import Clearance.Proofs.Codec.TableGrowth
import Clearance.Store.Persistent

/-!
# Writing to a persistent store

A batch is either written as a whole, or the store is exactly as it was before it was tried: its
rows, its settings, the numbers of its nodes, what it has cached and what it has counted. What the
encoders did to the table of nodes before the failure is taken back.

## Main definitions

* `Clearance.PersistentStore.written` — the store after a batch, if it can be written.

## Main results

* `Clearance.PersistentStore.run_apply` — a batch that is refused changes nothing.
* `Clearance.PersistentStore.written_eq_ok` — what a batch that is written changes.
-/

namespace Clearance.PersistentStore

open NodeTable

variable {s s' : PersistentStore} {batch : List Change}

/-! ### Encoding entries -/

theorem grows_encodeKey {numbered : Prop} (format : KeyFormat) (shape : Shape) (pattern : Triple)
    {use : KeyUse} (hnum : format = .byNodeId → use = .store → numbered) :
    (encodeKey format shape pattern use).Grows numbered := by
  cases shape with
  | exact => exact format.grows_encodeTriple pattern hnum
  | subjectPredicate => exact format.grows_encodeTriple pattern hnum
  | subject => exact format.grows_encodeNode pattern.s hnum
  | predicate => exact format.grows_encodeNode pattern.p hnum
  | everything => exact (EncodeM.grows_put everythingKey).bind fun _ => grows_pure true

/-- To look a pattern up gives no numbers, also when it fails. -/
theorem table_encodeKey_lookup (format : KeyFormat) (shape : Shape) (pattern : Triple)
    (sheet : Sheet NodeTable) :
    ((encodeKey format shape pattern .lookup).run.run sheet).2.table = sheet.table := by
  have hgrows : (encodeKey format shape pattern .lookup).Grows False :=
    grows_encodeKey format shape pattern fun _ h => (nomatch h)
  exact hgrows.table_eq id sheet

theorem grows_encoded {α : Type} {numbered : Prop} {x : EncodeM NodeTable α} (hx : x.Grows numbered)
    (capacity : Nat) : Grows numbered id (encoded capacity x) := by
  refine ⟨fun table => ?_, fun {table table' a} h hfits => ?_, fun hn table => ?_⟩
  · have hgrows := hx.extends_table { buffer := { capacity }, table }
    show table.Extends (encoded capacity x table).2
    rw [encoded]
    rcases h : x.run.run { buffer := { capacity }, table } with ⟨e | a, sheet⟩
    · rwa [h] at hgrows
    · rwa [h] at hgrows
  · have hrun : encoded capacity x table = (.ok a, table') := h
    rw [encoded] at hrun
    rcases hsheet : x.run.run { buffer := { capacity }, table } with ⟨e | b, sheet⟩
    · rw [hsheet] at hrun
      cases hrun
    · rw [hsheet] at hrun
      cases hrun
      exact hx.fits hsheet hfits
  · have hkept := hx.table_eq hn { buffer := { capacity }, table }
    show (encoded capacity x table).2 = table
    rw [encoded]
    rcases h : x.run.run { buffer := { capacity }, table } with ⟨e | a, sheet⟩
    · rwa [h] at hkept
    · rwa [h] at hkept

theorem grows_entryOf (options : StoreOptions) (c : Change) :
    Grows (options.format = .byNodeId) id (entryOf options c) := by
  cases c with
  | add pattern labels =>
    exact (grows_lift _).bind fun shape =>
      (grows_encoded (grows_encodeKey _ _ _ fun h _ => h) _).bind fun _ =>
        (grows_encoded (LabelList.grows_encode labels) _).bind fun _ => grows_pure _
  | remove pattern => exact grows_throw _

theorem grows_entriesOf (options : StoreOptions) : ∀ batch : List Change,
    Grows (options.format = .byNodeId) id (entriesOf options batch)
  | [] => grows_pure []
  | c :: cs => (grows_entryOf options c).bind fun _ =>
      (grows_entriesOf options cs).bind fun _ => grows_pure _

/-- What the entries of a batch do to the table of nodes. -/
theorem table_of_entriesOf {options : StoreOptions} {table table' : NodeTable}
    {entries : List (Shape × Put)}
    (h : (entriesOf options batch).run.run table = (.ok entries, table')) :
    table.Extends table' ∧ (table.Fits → table'.Fits) ∧
      (options.format ≠ .byNodeId → table' = table) := by
  have hgrows := grows_entriesOf options batch
  have hext := hgrows.extends_table table
  have hkept := fun hformat => hgrows.table_eq hformat table
  rw [h] at hext hkept
  exact ⟨hext, hgrows.fits h, hkept⟩

/-! ### Writing a batch -/

/-- The store after a batch with given entries, which may have let the table of nodes grow. -/
def writtenEntries (s : PersistentStore) (entries : List (Shape × Put)) (table : NodeTable)
    (db : Database) : PersistentStore :=
  { s with
    db, table
    patternsLoaded := s.patternsLoaded || entries.any (·.1.hasWildcard)
    generation := s.generation + 1
    cache := s.cache.clear }

/-- The store after a batch, if it can be written. -/
def written (s : PersistentStore) (batch : List Change) : Except Error PersistentStore :=
  if s.closed then .error .closed
  else match (entriesOf s.options batch).run.run s.table with
    | (.error e, _) => .error e
    | (.ok entries, table) =>
      (s.access.write s.db s.options.mode (s.writeSet entries table s.table.size)).map
        (s.writtenEntries entries table)

theorem run_requireOpen_bind {α : Type} (k : Unit → PersistentM α) (s : PersistentStore) :
    (requireOpen >>= k).run.run s
      = if s.closed then (.error .closed, s) else (k ()).run.run s := by
  by_cases hclosed : s.closed
  · have hrun : requireOpen.run.run s = (.error .closed, s) := by
      rw [requireOpen, run_get_bind, if_pos hclosed, run_throw]
    rw [run_bind_error hrun, if_pos hclosed]
  · have hrun : requireOpen.run.run s = (.ok (), s) := by
      rw [requireOpen, run_get_bind, if_neg hclosed, run_pure]
    rw [run_bind_ok hrun, if_neg hclosed]

/-- **A batch that is refused changes nothing.** What it did to the table of nodes is taken back. -/
theorem run_apply (s : PersistentStore) (batch : List Change) :
    (apply batch).run.run s = match s.written batch with
      | .ok s' => (.ok (), s')
      | .error e => (.error e, s) := by
  rw [apply, run_requireOpen_bind, written]
  by_cases hclosed : s.closed
  · rw [if_pos hclosed, if_pos hclosed]
  rw [if_neg hclosed, if_neg hclosed, run_get_bind]
  have hgrown := (grows_entriesOf s.options batch).extends_table s.table
  rcases hrun : (entriesOf s.options batch).run.run s.table with ⟨e | entries, table⟩
  · rw [hrun] at hgrown
    have hback : table.truncate s.table.size = s.table := hgrown.truncate_eq
    dsimp only
    rw [hback]
    rfl
  · rw [hrun] at hgrown
    have hback : table.truncate s.table.size = s.table := hgrown.truncate_eq
    dsimp only
    cases s.access.write s.db s.options.mode (s.writeSet entries table s.table.size) with
    | error e =>
      dsimp only
      rw [hback]
      rfl
    | ok db => rfl

theorem written_of_write {entries : List (Shape × Put)} {table : NodeTable} {db : Database}
    (hopen : s.closed = false)
    (hentries : (entriesOf s.options batch).run.run s.table = (.ok entries, table))
    (hwrite : s.access.write s.db s.options.mode (s.writeSet entries table s.table.size) = .ok db) :
    s.written batch = .ok (s.writtenEntries entries table db) := by
  rw [written, if_neg (Bool.eq_false_iff.1 hopen), hentries]
  dsimp only
  rw [hwrite]
  rfl

theorem written_eq_ok (h : s.written batch = .ok s') :
    ∃ entries table db, s.closed = false ∧
      (entriesOf s.options batch).run.run s.table = (.ok entries, table) ∧
      s.access.write s.db s.options.mode (s.writeSet entries table s.table.size) = .ok db ∧
      s' = s.writtenEntries entries table db := by
  unfold written at h
  by_cases hclosed : s.closed
  · rw [if_pos hclosed] at h
    cases h
  rw [if_neg hclosed] at h
  rcases hrun : (entriesOf s.options batch).run.run s.table with ⟨e | entries, table⟩
  · rw [hrun] at h
    cases h
  rw [hrun] at h
  dsimp only at h
  cases hwrite : s.access.write s.db s.options.mode (s.writeSet entries table s.table.size) with
  | error e =>
    rw [hwrite] at h
    cases h
  | ok db =>
    rw [hwrite] at h
    cases h
    exact ⟨entries, table, db, by simpa using hclosed, rfl, hwrite, rfl⟩

end Clearance.PersistentStore
