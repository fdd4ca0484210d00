import Clearance.Proofs.PersistentStore.Coherence

/-!
# Batches, one change at a time

A batch that a persistent store takes could have been handed over one change at a time: every change
would have been taken, and the rows, the settings, the numbers of the nodes and the mark for
wildcards would be the same in the end. Only the count of batches tells the difference, and the
cache, which is emptied anyway.

## Main results

* `Clearance.PersistentStore.writtenDb_cons` — the database after a batch.
* `Clearance.PersistentStore.written_cons` — the first change of a batch, and the others.
* `Clearance.PersistentStore.written_congr` — stores that would be the same after a restart.
-/

namespace Clearance

namespace NodeTable

/-- What a table got in two steps. -/
theorem Extends.allocatedSince_append {t t' t'' : NodeTable} (h : t.Extends t')
    (h' : t'.Extends t'') :
    t''.allocatedSince t.size = t'.allocatedSince t.size ++ t''.allocatedSince t'.size := by
  induction h' with
  | refl => rw [allocatedSince_size, List.append_nil]
  | push h' _ ih =>
    rw [allocatedSince_push (h.trans h').size_le, allocatedSince_push h'.size_le, ih,
      List.append_assoc]

end NodeTable

namespace Database

variable {mode : WriteMode} {db db' : Database}

/-- Gives a number to a term among numbered terms, unless it is taken. -/
def addTerm (terms : Std.ExtTreeMap Int String) (row : Nat × String) :
    Except Error (Std.ExtTreeMap Int String) :=
  if terms.contains (signedWord row.1) then .error .backend
  else .ok (terms.insert (signedWord row.1) row.2)

theorem addNode_eq (db : Database) (row : Nat × String) :
    db.addNode row.1 row.2 = (addTerm db.nodes row).map fun nodes => { db with nodes } := by
  rw [addNode, addTerm]
  split
  · rfl
  · rfl

theorem addNodes_eq (rows : List (Nat × String)) (db : Database) :
    rows.foldlM (fun db (row : Nat × String) => db.addNode row.1 row.2) db
      = (rows.foldlM addTerm db.nodes).map fun nodes => { db with nodes } := by
  induction rows generalizing db with
  | nil => rfl
  | cons row rows ih =>
    rw [List.foldlM_cons, List.foldlM_cons, addNode_eq]
    cases addTerm db.nodes row with
    | error e => rfl
    | ok nodes => exact ih { db with nodes }

/-- Entries are written without regard to what is beside them. -/
theorem putAll_beside (puts : List Put) (db : Database) (settings : Std.ExtTreeMap String String)
    (nodes : Std.ExtTreeMap Int String) :
    putAll { db with settings, nodes } mode puts
      = { db.putAll mode puts with settings, nodes } := by
  induction puts generalizing db with
  | nil => rfl
  | cons p puts ih =>
    have hput :
        put { db with settings, nodes } mode p = { db.put mode p with settings, nodes } := by
      unfold put setRows
      cases p.space <;> rfl
    show putAll (put { db with settings, nodes } mode p) mode puts = _
    rw [hput]
    exact ih (db.put mode p)

end Database

namespace PersistentStore

open NodeTable

variable {s s' r r' : PersistentStore} {batch : List Change} {c : Change}

/-- Writing a batch whose numbers are not taken. -/
theorem write_of_addTerms (haccess : s.access = {}) {entries : List (Shape × Put)}
    {table : NodeTable} {mark : Nat} {nodes : Std.ExtTreeMap Int String}
    (h : (s.writeSet entries table mark).nodes.foldlM Database.addTerm s.db.nodes = .ok nodes) :
    s.access.write s.db s.options.mode (s.writeSet entries table mark)
      = .ok (s.writtenDb entries nodes) := by
  have hrun := Database.addNodes_eq (s.writeSet entries table mark).nodes
    (s.db.putAll s.options.mode (entries.map Prod.snd))
  rw [Database.nodes_putAll, h] at hrun
  rw [haccess, Access.write, Bool.true_or, if_pos rfl, Database.write_of_addNodes hrun, writtenDb,
    writeSet]
  dsimp only
  split
  · rfl
  · rfl

/-- The numbers of a batch that was written were not taken. -/
theorem exists_addTerms_of_write (haccess : s.access = {}) {entries : List (Shape × Put)}
    {table : NodeTable} {mark : Nat} {db : Database}
    (h : s.access.write s.db s.options.mode (s.writeSet entries table mark) = .ok db) :
    ∃ nodes, (s.writeSet entries table mark).nodes.foldlM Database.addTerm s.db.nodes = .ok nodes ∧
      db = s.writtenDb entries nodes := by
  cases hnodes : (s.writeSet entries table mark).nodes.foldlM Database.addTerm s.db.nodes with
  | ok nodes =>
    rw [write_of_addTerms haccess hnodes] at h
    cases h
    exact ⟨nodes, rfl, rfl⟩
  | error e =>
    have hrun := Database.addNodes_eq (s.writeSet entries table mark).nodes
      (s.db.putAll s.options.mode (entries.map Prod.snd))
    rw [Database.nodes_putAll, hnodes] at hrun
    have hfail : s.db.write s.options.mode (s.writeSet entries table mark) = .error e := by
      unfold Database.write
      exact congrArg (Except.bind · _) hrun
    rw [haccess, Access.write, Bool.true_or, if_pos rfl, hfail] at h
    cases h

/-- The database after a batch is that after its first change and then its others. -/
theorem writtenDb_cons (s : PersistentStore) (entry : Shape × Put) (entries : List (Shape × Put))
    (table : NodeTable) (nodes nodes' : Std.ExtTreeMap Int String) :
    (s.writtenEntries [entry] table (s.writtenDb [entry] nodes)).writtenDb entries nodes'
      = s.writtenDb (entry :: entries) nodes' := by
  have hputs (settings : Std.ExtTreeMap String String) :
      Database.putAll { s.db.put s.options.mode entry.2 with settings, nodes } s.options.mode
          (entries.map Prod.snd)
        = { s.db.putAll s.options.mode (entry.2 :: entries.map Prod.snd) with settings, nodes } :=
    Database.putAll_beside (entries.map Prod.snd) (s.db.put s.options.mode entry.2) settings nodes
  have hsettings : (s.db.putAll s.options.mode (entry.2 :: entries.map Prod.snd)).settings
      = (s.db.put s.options.mode entry.2).settings := by
    rw [Database.settings_putAll, Database.settings_put]
  have hfirst : Database.putAll s.db s.options.mode [entry.2] = s.db.put s.options.mode entry.2 :=
    rfl
  unfold writtenDb writtenEntries
  simp only [List.map_cons, List.map_nil, hfirst, List.any_cons, List.any_nil, Bool.or_false]
  cases entry.1.hasWildcard with
  | true =>
    cases s.patternsLoaded with
    | true => simp [hputs, hsettings]
    | false => simp [Database.setSetting, hputs, hsettings]
  | false =>
    simp only [Bool.false_and, Bool.or_false, Bool.false_or, Bool.false_eq_true, if_false, hputs,
      hsettings]

/-- A batch without changes. -/
theorem reattached_of_written_nil (haccess : s.access = {}) (h : s.written [] = .ok s') :
    s'.reattached = s.reattached := by
  obtain ⟨entries, table, db, -, hentries, hwrite, rfl⟩ := written_eq_ok h
  cases hentries
  obtain ⟨nodes, hnodes, rfl⟩ := exists_addTerms_of_write haccess hwrite
  rw [writeSet, allocatedSince_size] at hnodes
  cases hnodes
  simp [reattached, writtenEntries, writtenDb, Database.putAll]

/-- **A batch is taken one change at a time.** If a store takes a batch, it takes the first change
alone and then the others, and would be the same after a restart. -/
theorem written_cons (haccess : s.access = {}) (h : s.written (c :: batch) = .ok s') :
    ∃ s₁ s₂, s.written [c] = .ok s₁ ∧ s₁.written batch = .ok s₂ ∧
      s₂.reattached = s'.reattached := by
  obtain ⟨entries, table, db, hopen, hentries, hwrite, rfl⟩ := written_eq_ok h
  obtain ⟨nodes, hnodes, rfl⟩ := exists_addTerms_of_write haccess hwrite
  rw [entriesOf] at hentries
  obtain ⟨entry, table₁, hentry, hrest⟩ := run_bind_eq_ok hentries
  obtain ⟨rest, table', hrest, hlast⟩ := run_bind_eq_ok hrest
  cases hlast
  have hone : (entriesOf s.options [c]).run.run s.table = (.ok [entry], table₁) := by
    rw [entriesOf, run_bind_ok hentry]
    rfl
  obtain ⟨hext, -, -⟩ := table_of_entriesOf hone
  obtain ⟨hext', -, -⟩ := table_of_entriesOf hrest
  -- The numbers that the batch gives are those of its first change, and then those of the others.
  have hsplit : (s.writeSet (entry :: rest) table s.table.size).nodes
      = (s.writeSet [entry] table₁ s.table.size).nodes
        ++ (s.writeSet rest table table₁.size).nodes := by
    simp only [writeSet, hext.allocatedSince_append hext', List.map_append]
  rw [hsplit, List.foldlM_append] at hnodes
  cases hnodes₁ : (s.writeSet [entry] table₁ s.table.size).nodes.foldlM Database.addTerm
      s.db.nodes with
  | error e =>
    rw [hnodes₁] at hnodes
    cases hnodes
  | ok nodes₁ =>
    rw [hnodes₁] at hnodes
    have hwritten₁ := written_of_write hopen hone (write_of_addTerms haccess hnodes₁)
    have hnodes' :
        ((s.writtenEntries [entry] table₁ (s.writtenDb [entry] nodes₁)).writeSet rest table
        table₁.size).nodes.foldlM Database.addTerm (s.writtenDb [entry] nodes₁).nodes
          = .ok nodes := by
      rw [nodes_writtenDb]
      exact hnodes
    refine ⟨_, _, hwritten₁, written_of_write hopen hrest
      (write_of_addTerms (s := s.writtenEntries [entry] table₁ (s.writtenDb [entry] nodes₁)) haccess
        hnodes'), ?_⟩
    rw [writtenDb_cons]
    simp [reattached, writtenEntries, Bool.or_assoc]

/-! ### Stores that would be the same after a restart -/

theorem eq_of_reattached_eq (h : s.reattached = r.reattached) (hclosed : s.closed = r.closed) :
    r = { s with cache := r.cache, reads := r.reads, generation := r.generation } := by
  cases s
  cases r
  simp_all [reattached]

/-- **Stores that would be the same after a restart** take the same batches, and would be the same
again after them. -/
theorem written_congr (hsame : s.reattached = r.reattached) (hclosed : s.closed = r.closed)
    (h : s.written batch = .ok s') :
    ∃ r', r.written batch = .ok r' ∧ s'.reattached = r'.reattached := by
  rw [eq_of_reattached_eq hsame hclosed]
  obtain ⟨entries, table, db, hopen, hentries, hwrite, rfl⟩ := written_eq_ok h
  exact ⟨_, written_of_write hopen hentries hwrite, rfl⟩

end PersistentStore

end Clearance
