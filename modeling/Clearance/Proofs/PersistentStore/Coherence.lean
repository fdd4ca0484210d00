import Clearance.Proofs.PersistentStore.Answers
import Clearance.Proofs.PersistentStore.SavedTable

/-!
# Coherent stores

A persistent store is *coherent* with its database when everything that it keeps in memory is what
the database says: the format, the mark for wildcards, the numbers of the nodes, and the cached
answers. A new store is coherent, and it stays so, since what a batch changes in memory it also
writes. The database of a coherent store can be opened again: this gives the store with an empty
cache.

## Main definitions

* `Clearance.PersistentStore.fresh` — the store on a new database.
* `Clearance.PersistentStore.Coherent` — coherent stores.
* `Clearance.PersistentStore.reattached` — a store with nothing but what its database keeps.
* `Clearance.PersistentStore.opened` — a store that was just opened.

## Main results

* `Clearance.PersistentStore.run_attach_new` — opening a new database.
* `Clearance.PersistentStore.Coherent.written_eq` — batches for coherent stores.
* `Clearance.PersistentStore.Coherent.written` — coherence is kept.
* `Clearance.PersistentStore.Coherent.run_attach` — opening the database of a coherent store.
-/

namespace Clearance

namespace Database

variable {mode : WriteMode} {puts : List Put}

theorem nodes_put (db : Database) (p : Put) : (db.put mode p).nodes = db.nodes := by
  unfold put setRows
  cases p.space <;> rfl

theorem settings_put (db : Database) (p : Put) : (db.put mode p).settings = db.settings := by
  unfold put setRows
  cases p.space <;> rfl

theorem rows_setRows (db : Database) (space space' : Keyspace) (rows : Rows) :
    (db.setRows space rows).rows space' = if space = space' then rows else db.rows space' := by
  cases space <;> cases space' <;> rfl

/-- What is found after an entry was written. -/
theorem find?_put (db : Database) (p : Put) (space : Keyspace) (k : Bytes) :
    (db.put mode p).find? space k = if p.space = space ∧ p.key = k then
      some (combine mode (db.find? space k) p.value) else db.find? space k := by
  rw [find?, put, rows_setRows]
  by_cases hspace : p.space = space
  · subst hspace
    by_cases hkey : p.key = k
    · subst hkey
      simp
    · simp [Std.ExtTreeMap.getElem?_insert, Std.LawfulEqCmp.compare_eq_iff_eq, hkey, find?]
  · rw [if_neg hspace, if_neg fun h => hspace h.1]
    rfl

/-- A database after entries were written. -/
def putAll (db : Database) (mode : WriteMode) (puts : List Put) : Database :=
  puts.foldl (fun db p => db.put mode p) db

theorem nodes_putAll (db : Database) : (db.putAll mode puts).nodes = db.nodes := by
  induction puts generalizing db with
  | nil => rfl
  | cons p puts ih => exact (ih (db.put mode p)).trans (nodes_put db p)

theorem settings_putAll (db : Database) : (db.putAll mode puts).settings = db.settings := by
  induction puts generalizing db with
  | nil => rfl
  | cons p puts ih => exact (ih (db.put mode p)).trans (settings_put db p)

/-- What is found after entries were written was there before, or has the key of one of them. -/
theorem exists_of_find?_putAll {space : Keyspace} {k v : Bytes} :
    ∀ {puts : List Put} {db : Database}, (db.putAll mode puts).find? space k = some v →
      (∃ w, db.find? space k = some w) ∨ ∃ p ∈ puts, p.space = space ∧ p.key = k
  | [], _, h => .inl ⟨v, h⟩
  | p :: puts, db, h => by
    by_cases hp : p.space = space ∧ p.key = k
    · exact .inr ⟨p, List.mem_cons_self, hp⟩
    have hrest : ((db.put mode p).putAll mode puts).find? space k = some v := h
    rcases exists_of_find?_putAll hrest with ⟨w, hw⟩ | ⟨p', hp', hkey⟩
    · rw [find?_put, if_neg hp] at hw
      exact .inl ⟨w, hw⟩
    · exact .inr ⟨p', List.mem_cons_of_mem _ hp', hkey⟩

/-- A property of values that joining values keeps holds of all values after entries were
written. -/
theorem forall_find?_putAll {R : Bytes → Prop} (happend : ∀ {v w}, R v → R w → R (v ++ w)) :
    ∀ {puts : List Put} {db : Database}, (∀ space k v, db.find? space k = some v → R v) →
      (∀ p ∈ puts, R p.value) → ∀ space k v, (db.putAll mode puts).find? space k = some v → R v
  | [], _, hdb, _ => hdb
  | p :: puts, db, hdb, hputs => by
    have hp := hputs p List.mem_cons_self
    have hrest : ∀ p' ∈ puts, R p'.value := fun p' hp' => hputs p' (List.mem_cons_of_mem _ hp')
    have hput : ∀ space k v, (db.put mode p).find? space k = some v → R v := by
      intro space k v hfind
      rw [find?_put] at hfind
      split at hfind
      · obtain rfl := Option.some.inj hfind
        cases mode with
        | overwrite => exact hp
        | merge =>
          cases hpresent : db.find? space k with
          | none => exact hp
          | some w => exact happend (hdb _ _ _ hpresent) hp
      · exact hdb _ _ _ hfind
    have hall : ∀ space k v, ((db.put mode p).putAll mode puts).find? space k = some v → R v :=
      forall_find?_putAll happend hput hrest
    exact hall

/-- Writing a write set whose nodes get their numbers. -/
theorem write_of_addNodes {w : WriteSet} {db db' : Database}
    (h : w.nodes.foldlM (fun db (id, term) => db.addNode id term) (db.putAll mode w.puts)
      = .ok db') :
    db.write mode w
      = .ok (w.settings.foldl (fun db (key, value) => db.setSetting key value) db') := by
  unfold write
  exact congrArg (Except.bind · _) h

theorem setting?_setSetting (db : Database) (key value key' : String) :
    (db.setSetting key value).setting? key'
      = if key = key' then some value else db.setting? key' := by
  simp only [setSetting, setting?, Std.ExtTreeMap.getElem?_insert,
    Std.LawfulEqCmp.compare_eq_iff_eq]

end Database

namespace PersistentStore

open NodeTable

variable {dir : String} {options : StoreOptions} {s s' : PersistentStore} {batch : List Change}
  {entries : List (Shape × Put)} {table : NodeTable}

/-- The store on a new database. -/
def fresh (dir : String) (options : StoreOptions) : PersistentStore where
  dir
  options
  db := ({} : Database).setSetting formatSetting options.format.name
  table := .empty
  patternsLoaded := false
  cache := { capacity := options.lookupCacheSize }

/-- A store for a directory with given options, whose memory says what its database says, and whose
database can be used. -/
structure Coherent (dir : String) (options : StoreOptions) (s : PersistentStore) : Prop where
  /-- The directory is the given one. -/
  dir_eq : s.dir = dir
  /-- The options are the given ones. -/
  options_eq : s.options = options
  /-- The database can be read and written. -/
  access_eq : s.access = {}
  /-- The format is recorded. -/
  format : s.db.setting? formatSetting = some s.options.format.name
  /-- The mark for wildcards is recorded. -/
  patterns : s.patternsLoaded = decide (s.db.setting? patternsSetting = some holds)
  /-- The numbers have been given one after the other. -/
  grown : NodeTable.empty.Extends s.table
  /-- The numbers are small. -/
  fits : s.table.Fits
  /-- The numbers are saved. -/
  saved : s.table.SavedIn s.db
  /-- There are no numbers unless the format has them. -/
  table_eq : s.options.format ≠ .byNodeId → s.table = .empty
  /-- The cached answers are right. -/
  caches : s.Caches s.cache

theorem formatSetting_ne_patternsSetting : formatSetting ≠ patternsSetting := by decide

theorem coherent_fresh (dir : String) (options : StoreOptions) :
    (fresh dir options).Coherent dir options where
  dir_eq := rfl
  options_eq := rfl
  access_eq := rfl
  format := by
    show (({} : Database).setSetting formatSetting options.format.name).setting? formatSetting = _
    rw [Database.setting?_setSetting, if_pos rfl]
    rfl
  patterns := by
    have hnone : (fresh dir options).db.setting? patternsSetting = none := by
      show (({} : Database).setSetting formatSetting options.format.name).setting? patternsSetting
        = _
      rw [Database.setting?_setSetting, if_neg formatSetting_ne_patternsSetting]
      rfl
    rw [hnone]
    rfl
  grown := .refl
  fits := by
    show 0 < 1 <<< 63
    omega
  saved := savedIn_empty rfl
  table_eq _ := rfl
  caches := BoundedCache.throughout_of_slots_eq_nil rfl

/-! ### Writing -/

/-- The database after a batch with given entries, when the terms of the nodes are given. -/
def writtenDb (s : PersistentStore) (entries : List (Shape × Put))
    (nodes : Std.ExtTreeMap Int String) : Database :=
  let db := { s.db.putAll s.options.mode (entries.map Prod.snd) with nodes }
  if entries.any (·.1.hasWildcard) && !s.patternsLoaded then db.setSetting patternsSetting holds
  else db

theorem nodes_writtenDb (nodes : Std.ExtTreeMap Int String) :
    (s.writtenDb entries nodes).nodes = nodes := by
  unfold writtenDb
  split <;> rfl

theorem setting?_writtenDb (nodes : Std.ExtTreeMap Int String) (key : String) :
    (s.writtenDb entries nodes).setting? key =
      if entries.any (·.1.hasWildcard) && !s.patternsLoaded then
        if patternsSetting = key then some holds else s.db.setting? key
      else s.db.setting? key := by
  have hkept :
      Database.setting? { s.db.putAll s.options.mode (entries.map Prod.snd) with nodes } key
      = s.db.setting? key := by
    unfold Database.setting?
    rw [Database.settings_putAll]
  unfold writtenDb
  split
  · rw [Database.setting?_setSetting, hkept]
  · exact hkept

theorem find?_writtenDb (s : PersistentStore) (entries : List (Shape × Put))
    (nodes : Std.ExtTreeMap Int String) (space : Keyspace) (k : Bytes) :
    (s.writtenDb entries nodes).find? space k
      = (s.db.putAll s.options.mode (entries.map Prod.snd)).find? space k := by
  unfold writtenDb
  split
  · cases space <;> rfl
  · cases space <;> rfl

/-- The database of a coherent store takes every batch. -/
theorem Coherent.write_eq (h : s.Coherent dir options) (entries : List (Shape × Put))
    (hext : s.table.Extends table) (hfits : table.Fits) :
    ∃ nodes, s.access.write s.db s.options.mode (s.writeSet entries table s.table.size)
        = .ok (s.writtenDb entries nodes) ∧ table.SavedIn (s.writtenDb entries nodes) := by
  have hsaved : s.table.SavedIn (s.db.putAll s.options.mode (entries.map Prod.snd)) := by
    rw [SavedIn, Database.nodes_putAll]
    exact h.saved
  obtain ⟨nodes, hrun, hnodes⟩ := hsaved.addNodes hext hfits
  refine ⟨nodes, ?_, ?_⟩
  · have hwritable : s.access.writable = true := by rw [h.access_eq]
    rw [Access.write, hwritable, Bool.true_or, if_pos rfl, Database.write_of_addNodes hrun,
      writtenDb, writeSet]
    dsimp only
    split
    · rfl
    · rfl
  · rw [SavedIn, nodes_writtenDb]
    exact hnodes

/-- **A batch for a coherent store is written** as soon as its entries can be encoded. -/
theorem Coherent.written_eq (h : s.Coherent dir options) (hopen : s.closed = false)
    (hentries : (entriesOf s.options batch).run.run s.table = (.ok entries, table)) :
    ∃ nodes, s.written batch
      = .ok (s.writtenEntries entries table (s.writtenDb entries nodes)) := by
  obtain ⟨hext, hfits, -⟩ := table_of_entriesOf hentries
  obtain ⟨nodes, hwrite, -⟩ := h.write_eq entries hext (hfits h.fits)
  exact ⟨nodes, written_of_write hopen hentries hwrite⟩

/-- **Coherence is kept** by every batch that is written. -/
theorem Coherent.written (h : s.Coherent dir options) (hwritten : s.written batch = .ok s') :
    s'.Coherent dir options := by
  obtain ⟨entries, table, db, -, hentries, hwrite, rfl⟩ := written_eq_ok hwritten
  obtain ⟨hext, hfits, hkept⟩ := table_of_entriesOf hentries
  obtain ⟨nodes, hwrite', hsaved⟩ := h.write_eq entries hext (hfits h.fits)
  rw [hwrite] at hwrite'
  cases hwrite'
  exact {
    dir_eq := h.dir_eq
    options_eq := h.options_eq
    access_eq := h.access_eq
    format := by
      show (s.writtenDb entries nodes).setting? formatSetting = _
      rw [setting?_writtenDb, if_neg formatSetting_ne_patternsSetting.symm, ite_self]
      exact h.format
    patterns := by
      show (s.patternsLoaded || entries.any (·.1.hasWildcard))
        = decide ((s.writtenDb entries nodes).setting? patternsSetting = some holds)
      rw [setting?_writtenDb, if_pos rfl, h.patterns]
      cases entries.any (·.1.hasWildcard) with
      | false => simp
      | true =>
        by_cases hset : s.db.setting? patternsSetting = some holds
        · simp [hset]
        · simp [hset]
    grown := h.grown.trans hext
    fits := hfits h.fits
    saved := hsaved
    table_eq := fun hformat => (hkept hformat).trans (h.table_eq hformat)
    caches := BoundedCache.throughout_clear }

/-! ### Opening again -/

/-- A store with nothing but what its database keeps. -/
def reattached (s : PersistentStore) : PersistentStore :=
  { s with
    reads := 0
    cache := { capacity := s.options.lookupCacheSize }
    generation := 0
    closed := false }

theorem Coherent.reattached (h : s.Coherent dir options) :
    s.reattached.Coherent dir options :=
  { h with caches := BoundedCache.throughout_of_slots_eq_nil rfl }

theorem Coherent.savedTable_eq (h : s.Coherent dir options) :
    savedTable s.db s.options.format = .ok s.table := by
  cases hformat : s.options.format with
  | byNodeId => exact savedTable_byNodeId h.saved h.grown h.fits
  | byString =>
    rw [h.table_eq (by simp [hformat])]
    rfl
  | byHash algorithm =>
    rw [h.table_eq (by simp [hformat])]
    rfl

theorem run_claimFormat {access : Access} {format : KeyFormat} {db : Database}
    (h : db.setting? formatSetting = some format.name) :
    (claimFormat dir access format).run.run db = (.ok (), db) := by
  rw [claimFormat, run_get_bind, h]
  dsimp only
  rw [if_neg (not_not_intro rfl)]
  rfl

/-- A store that is opened on a database, given the table of nodes. -/
def opened (dir : String) (access : Access) (options : StoreOptions) (db : Database)
    (table : NodeTable) : PersistentStore where
  dir := dir
  options := options
  db := db
  access := access
  table := table
  patternsLoaded := db.setting? patternsSetting = some holds
  cache := { capacity := options.lookupCacheSize }

/-- A store is opened after its format has been checked. -/
theorem run_attach_eq (dir : String) (access : Access) (options : StoreOptions) (db : Database) :
    (attach dir access options).run.run db =
      match (claimFormat dir access options.format).run.run db with
      | (.error e, db) => (.error e, db)
      | (.ok _, db) => ((savedTable db options.format).map (opened dir access options db), db) := by
  rw [attach]
  rcases hclaim : (claimFormat dir access options.format).run.run db with ⟨e | u, db'⟩
  · rw [run_bind_error hclaim]
  · rw [run_bind_ok hclaim, run_get_bind]
    dsimp only
    cases savedTable db' options.format with
    | error e => rfl
    | ok table => rfl

/-- A store that was just opened. -/
theorem eq_opened_of_attach {access : Access} {db db' : Database}
    (h : (attach dir access options).run.run db = (.ok s, db')) :
    ∃ table, s = opened dir access options db' table := by
  rw [run_attach_eq] at h
  rcases hclaim : (claimFormat dir access options.format).run.run db with ⟨e | u, db₁⟩
  · rw [hclaim] at h
    cases h
  · rw [hclaim] at h
    dsimp only at h
    cases htable : savedTable db₁ options.format with
    | error e =>
      rw [htable] at h
      cases h
    | ok table =>
      rw [htable] at h
      cases h
      exact ⟨table, rfl⟩

theorem Coherent.run_attach_of_claim (h : s.Coherent dir options) {db : Database}
    (hclaim : (claimFormat s.dir s.access s.options.format).run.run db = (.ok (), s.db)) :
    (attach s.dir s.access s.options).run.run db = (.ok s.reattached, s.db) := by
  have htable : (liftM (savedTable s.db s.options.format) : ExceptT Error (StateM Database)
      NodeTable).run.run s.db = (.ok s.table, s.db) := by
    rw [h.savedTable_eq]
    rfl
  rw [attach, run_bind_ok hclaim, run_get_bind, run_bind_ok htable, run_pure,
    PersistentStore.reattached, h.patterns]

/-- **The database of a coherent store can be opened again**, and only the cache is lost. -/
theorem Coherent.run_attach (h : s.Coherent dir options) :
    (attach s.dir s.access s.options).run.run s.db = (.ok s.reattached, s.db) :=
  h.run_attach_of_claim (run_claimFormat h.format)

/-- **A new database can be opened**, which gives the fresh store. -/
theorem run_attach_new (dir : String) (options : StoreOptions) :
    (attach dir {} options).run.run {} = (.ok (fresh dir options), (fresh dir options).db) :=
  (coherent_fresh dir options).run_attach_of_claim rfl

end PersistentStore

end Clearance
