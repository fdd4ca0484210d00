import Clearance.Proofs.PersistentStore.Writing
import Clearance.Proofs.Running
import Clearance.Store.Shared

/-!
# The steps of shared stores

What the parts do of which the requests to a shared store are made: working on the store, beginning
and ending a transaction, making it the writer, and collecting and applying changes.

## Main definitions

* `Clearance.Store.Accepts` — changes that a store takes.
* `Clearance.SharedStore.ended`, `Clearance.SharedStore.discarded`, `Clearance.SharedStore.entered`
  — a store after a transaction has ended, was forgotten, or has begun.
* `Clearance.SharedStore.Promotion`, `Clearance.SharedStore.Collection` — what becomes of a
  transaction that is to be the writer, and of a change that it is to collect.

## Main results

* `Clearance.Store.run_apply_persistent`, `Clearance.Store.run_apply_memory` — batches for stores.
* `Clearance.SharedStore.run_finish`, `Clearance.SharedStore.run_abort`,
  `Clearance.SharedStore.run_discard`, `Clearance.SharedStore.run_commit` — the end of a
  transaction.
* `Clearance.SharedStore.run_enter`, `Clearance.SharedStore.promotion` — its beginning, and how it
  becomes the writer.
* `Clearance.SharedStore.collection_add`, `Clearance.SharedStore.collection_remove` — collecting
  changes.
* `Clearance.SharedStore.run_commitChanges`, `Clearance.SharedStore.run_addAlone`,
  `Clearance.SharedStore.run_removeAlone` — applying changes.
-/

namespace Clearance

/-- The persistent store that a store is, if it is one. -/
def Store.persistent? : Store → Option PersistentStore
  | .persistent s => some s
  | _ => none

/-- Whether a store takes a change that it is asked for. -/
def Store.Accepts (S : Store) : Change → Prop
  | .add pattern labels => S.checkEntry pattern labels = .ok ()
  | .remove _ => S.supportsRemove = true

theorem Store.run_apply_persistent (s : PersistentStore) (batch : List Change) :
    (Store.apply batch).run.run (.persistent s) = match s.written batch with
      | .ok s' => (.ok (), .persistent s')
      | .error e => (.error e, .persistent s) := by
  have hrun : (Store.apply batch).run.run (.persistent s)
      = (((PersistentStore.apply batch).run.run s).1,
          .persistent ((PersistentStore.apply batch).run.run s).2) := rfl
  rw [hrun, PersistentStore.run_apply]
  cases s.written batch with
  | ok s' => rfl
  | error e => rfl

theorem Store.run_apply_memory (m : MemoryStore) (batch : List Change) :
    (Store.apply batch).run.run (.memory m) = ((m.apply batch).1, .memory (m.apply batch).2) := by
  have hrun : (Store.apply batch).run.run (.memory m)
      = (liftM (m.apply batch).1 : StoreM Unit).run.run (.memory (m.apply batch).2) := rfl
  rw [hrun]
  rcases (m.apply batch).1 with e | a
  · rfl
  · rfl

theorem Store.run_lookup_memory (m : MemoryStore) (t : Triple) :
    (Store.lookup t).run.run (.memory m) = (m.lookup t, .memory m) := by
  have hrun : (Store.lookup t).run.run (.memory m)
      = (liftM (m.lookup t) : StoreM (List Label)).run.run (.memory m) := rfl
  rw [hrun]
  rcases m.lookup t with e | labels
  · rfl
  · rfl

theorem Store.run_lookup_empty (t : Triple) :
    (Store.lookup t).run.run .empty
      = (if t.isConcrete then .ok [] else .error (.invalid (.lookupOfPattern t)), .empty) := by
  have hrun : (Store.lookup t).run.run .empty
      = (resolve t false fun _ _ => return [] : StoreM (List Label)).run.run .empty := rfl
  rw [hrun, resolve]
  split
  · rfl
  · rfl

theorem Store.run_lookup_persistent (s : PersistentStore) (t : Triple) :
    (Store.lookup t).run.run (.persistent s)
      = (((PersistentStore.lookup t).run.run s).1,
          .persistent ((PersistentStore.lookup t).run.run s).2) := rfl

theorem Store.run_graph_memory (m : MemoryStore) :
    Store.graph.run.run (.memory m)
      = (.ok (m.graph.mergeSort fun e f => (compare e.1 f.1).isLE), .memory m) := rfl

theorem Store.run_graph_persistent (s : PersistentStore) :
    Store.graph.run.run (.persistent s)
      = ((PersistentStore.listing.run s).1.2.map
          (fun _ => (PersistentStore.listing.run s).1.1.mergeSort fun e f =>
            (compare e.1 f.1).isLE),
        .persistent (PersistentStore.listing.run s).2) := rfl

namespace SharedStore

variable {σ : SharedStore}

theorem run_onStore {α : Type} (x : StoreM α) (σ : SharedStore) :
    (onStore x).run.run σ
      = ((x.run.run σ.store).1, { σ with store := (x.run.run σ.store).2 }) := rfl

/-! ### The end of a transaction -/

/-- A store without a transaction that has ended. -/
def ended (σ : SharedStore) (x : String) (t : Txn) : SharedStore :=
  { σ with
    txns := σ.txns.erase x
    writerActive := σ.writerActive && t.mode ≠ .write }

theorem getElem?_ended (σ : SharedStore) (x : String) (t : Txn) (y : String) :
    (σ.ended x t).txns[y]? = if x = y then none else σ.txns[y]? := by
  simp only [ended, Std.ExtTreeMap.getElem?_erase, Std.LawfulEqCmp.compare_eq_iff_eq]

theorem run_txn (x : String) (σ : SharedStore) :
    (txn x).run.run σ = match σ.txns[x]? with
      | some t => (.ok t, σ)
      | none => (.error (.conflict .finished), σ) := by
  rw [txn, run_get_bind]
  cases σ.txns[x]? with
  | some t => rfl
  | none => rfl

theorem run_finish (x : String) (σ : SharedStore) :
    (finish x).run.run σ = match σ.txns[x]? with
      | some t => (.ok t, σ.ended x t)
      | none => (.error (.conflict .finished), σ) := by
  have htxn := run_txn x σ
  cases h : σ.txns[x]? with
  | some t =>
    rw [h] at htxn
    rw [finish, run_bind_ok htxn]
    rfl
  | none =>
    rw [h] at htxn
    rw [finish, run_bind_error htxn]

theorem run_abort (x : String) (σ : SharedStore) :
    (abort x).run.run σ = match σ.txns[x]? with
      | some t => (.ok (), σ.ended x t)
      | none => (.error (.conflict .finished), σ) := by
  have hfinish := run_finish x σ
  cases h : σ.txns[x]? with
  | some t =>
    rw [h] at hfinish
    rw [abort, run_bind_ok hfinish, run_pure]
  | none =>
    rw [h] at hfinish
    rw [abort, run_bind_error hfinish]

theorem store_abort (x : String) (σ : SharedStore) :
    ((abort x).run.run σ).2.store = σ.store ∧ ((abort x).run.run σ).2.commits = σ.commits := by
  rw [run_abort]
  cases σ.txns[x]? with
  | some t => exact ⟨rfl, rfl⟩
  | none => exact ⟨rfl, rfl⟩

/-- A store without a transaction that was forgotten. -/
def discarded (σ : SharedStore) (x : String) (t : Txn) : SharedStore :=
  { σ.ended x t with
    events := σ.events ++ if t.pending.isEmpty then [] else [.changesDiscarded t.pending.length] }

theorem run_discard (x : String) (σ : SharedStore) :
    (discard x).run.run σ = match σ.txns[x]? with
      | some t => (.ok (), σ.discarded x t)
      | none => (.error (.conflict .finished), σ) := by
  have hfinish := run_finish x σ
  cases h : σ.txns[x]? with
  | some t =>
    rw [h] at hfinish
    rw [discard, run_bind_ok hfinish]
    dsimp only
    cases hempty : t.pending.isEmpty with
    | true =>
      rw [discarded, hempty, if_pos rfl, List.append_nil]
      rfl
    | false =>
      rw [discarded, hempty, if_neg Bool.false_ne_true]
      rfl
  | none =>
    rw [h] at hfinish
    rw [discard, run_bind_error hfinish]

/-! ### The beginning of a transaction -/

/-- A store without the transaction of a name, if it has one. -/
def vacated (σ : SharedStore) (x : String) : SharedStore :=
  match σ.txns[x]? with
  | some t => σ.discarded x t
  | none => σ

theorem getElem?_vacated (σ : SharedStore) (x y : String) :
    (σ.vacated x).txns[y]? = if x = y then none else σ.txns[y]? := by
  rw [vacated]
  split
  · next t ht => exact getElem?_ended σ x t y
  · next hx =>
    split
    · next hxy => rw [← hxy, hx]
    · rfl

/-- A store with a transaction that has begun. -/
def entered (σ : SharedStore) (x : String) (t : Txn) : SharedStore :=
  { σ.vacated x with txns := (σ.vacated x).txns.insert x t }

theorem getElem?_entered (σ : SharedStore) (x : String) (t : Txn) (y : String) :
    (σ.entered x t).txns[y]? = if x = y then some t else σ.txns[y]? := by
  simp only [entered, Std.ExtTreeMap.getElem?_insert, Std.LawfulEqCmp.compare_eq_iff_eq,
    getElem?_vacated]
  split
  · rfl
  · rfl

theorem store_entered (σ : SharedStore) (x : String) (t : Txn) :
    (σ.entered x t).store = σ.store := by
  rw [entered, vacated]
  split
  · rfl
  · rfl

theorem run_enter (x : String) (t : Txn) (σ : SharedStore) :
    (enter x t).run.run σ = (.ok (), σ.entered x t) := by
  have hdiscard := run_discard x σ
  have hmem : σ.txns.contains x = σ.txns[x]?.isSome :=
    Std.ExtTreeMap.contains_eq_isSome_getElem?
  rw [enter, run_get_bind, hmem, entered, vacated]
  cases h : σ.txns[x]? with
  | some old =>
    rw [h] at hdiscard
    rw [Option.isSome_some, if_pos rfl, run_bind_ok hdiscard]
    rfl
  | none =>
    rw [Option.isSome_none, if_neg Bool.false_ne_true]
    rfl

/-- A reader begins. -/
theorem run_start_reader {type : TxnType} (hwrite : type ≠ .write)
    (hoffered : type ≠ .readCommittedPromote) (x : String) (σ : SharedStore) :
    (start x type).run.run σ = (.ok true, σ.entered x { type, mode := .read }) := by
  cases type with
  | read => exact run_bind_ok (run_enter x _ σ) _
  | readPromote => exact run_bind_ok (run_enter x _ σ) _
  | write => exact absurd rfl hwrite
  | readCommittedPromote => exact absurd rfl hoffered

theorem run_takeSlot (σ : SharedStore) :
    takeSlot.run.run σ = if σ.writerActive then (.ok false, σ)
      else (.ok true, { σ with writerActive := true }) := by
  rw [takeSlot, run_get_bind]
  cases σ.writerActive with
  | true => rfl
  | false => rfl

/-- A writer begins as soon as the slot is free. -/
theorem run_start_writer (x : String) (σ : SharedStore) :
    (start x .write).run.run σ = if σ.writerActive then (.ok false, σ)
      else (.ok true,
        { σ with writerActive := true }.entered x { type := .write, mode := .write }) := by
  have hslot := run_takeSlot σ
  rw [start]
  cases h : σ.writerActive with
  | true =>
    rw [h, if_pos rfl] at hslot
    rw [run_bind_ok hslot]
    rfl
  | false =>
    rw [h, if_neg Bool.false_ne_true] at hslot
    rw [run_bind_ok hslot, if_neg Bool.false_ne_true]
    exact run_bind_ok (run_enter x _ _) _

/-! ### Becoming the writer -/

/-- A store whose writer is a given transaction. -/
def promoted (σ : SharedStore) (x : String) (t : Txn) : SharedStore :=
  { σ with writerActive := true, txns := σ.txns.insert x { t with mode := .write } }

theorem getElem?_promoted (σ : SharedStore) (x : String) (t : Txn) (y : String) :
    (σ.promoted x t).txns[y]? = if x = y then some { t with mode := .write } else σ.txns[y]? := by
  simp only [promoted, Std.ExtTreeMap.getElem?_insert, Std.LawfulEqCmp.compare_eq_iff_eq]

/-- What becomes of a transaction that is to be the writer: the answer, and the store after it. -/
inductive Promotion (x : String) (σ : SharedStore) : Except Error Bool → SharedStore → Prop where
  /-- There is no such transaction. -/
  | finished (h : σ.txns[x]? = none) : Promotion x σ (.error (.conflict .finished)) σ
  /-- It only reads. -/
  | readOnly {t : Txn} (h : σ.txns[x]? = some t) (hmode : t.mode = .read)
    (htype : t.type ≠ .readPromote) : Promotion x σ (.error (.conflict .readOnly)) σ
  /-- There is another writer. -/
  | waits {t : Txn} (h : σ.txns[x]? = some t) (hactive : σ.writerActive = true) :
    Promotion x σ (.ok false) σ
  /-- It is the writer already. -/
  | already {t : Txn} (h : σ.txns[x]? = some t) (hmode : t.mode = .write) :
    Promotion x σ (.ok true) σ
  /-- It becomes the writer. -/
  | turns {t : Txn} (h : σ.txns[x]? = some t) (hmode : t.mode = .read)
    (htype : t.type = .readPromote) (hfree : σ.writerActive = false) :
    Promotion x σ (.ok true) (σ.promoted x t)

theorem promotion (x : String) (σ : SharedStore) :
    Promotion x σ ((promote x).run.run σ).1 ((promote x).run.run σ).2 := by
  have htxn := run_txn x σ
  have hslot := run_takeSlot σ
  cases h : σ.txns[x]? with
  | none =>
    rw [h] at htxn
    rw [promote, run_bind_error htxn]
    exact .finished h
  | some t =>
    rw [h] at htxn
    rw [promote, run_bind_ok htxn]
    obtain ⟨type, mode, pending⟩ := t
    cases mode with
    | write => exact .already h rfl
    | read =>
      cases type with
      | read => exact .readOnly h rfl (by simp)
      | write => exact .readOnly h rfl (by simp)
      | readCommittedPromote => exact .readOnly h rfl (by simp)
      | readPromote =>
        dsimp only
        cases hactive : σ.writerActive with
        | true =>
          rw [hactive, if_pos rfl] at hslot
          rw [run_bind_ok hslot]
          exact .waits h hactive
        | false =>
          rw [hactive, if_neg Bool.false_ne_true] at hslot
          rw [run_bind_ok hslot]
          exact .turns h rfl rfl hactive

theorem Promotion.store_eq {x : String} {r : Except Error Bool} {σ' : SharedStore}
    (h : Promotion x σ r σ') : σ'.store = σ.store := by
  cases h <;> rfl

/-- A transaction is the writer, or what it asks for is refused and nothing has changed. -/
theorem run_requireWriter (x : String) (σ : SharedStore) :
    (∃ e, (requireWriter x).run.run σ = (.error e, σ)) ∨
      ∃ σ', (requireWriter x).run.run σ = (.ok (), σ') ∧ Promotion x σ (.ok true) σ' := by
  have hpromotion := promotion x σ
  rcases hrun : (promote x).run.run σ with ⟨e | writer, σ'⟩
  · rw [hrun] at hpromotion
    refine .inl ⟨e, ?_⟩
    rw [requireWriter, run_bind_error hrun]
    cases hpromotion <;> rfl
  · rw [hrun] at hpromotion
    rw [requireWriter, run_bind_ok hrun]
    cases writer with
    | true => exact .inr ⟨σ', rfl, hpromotion⟩
    | false =>
      cases hpromotion
      exact .inl ⟨_, rfl⟩

/-! ### Collecting changes -/

/-- A store on which a transaction has collected a change. -/
def collected (σ : SharedStore) (x : String) (t : Txn) (c : Change) : SharedStore :=
  { σ with txns := σ.txns.insert x { t with pending := t.pending ++ [c] } }

theorem getElem?_collected (σ : SharedStore) (x : String) (t : Txn) (c : Change) (y : String) :
    (σ.collected x t c).txns[y]?
      = if x = y then some { t with pending := t.pending ++ [c] } else σ.txns[y]? := by
  simp only [collected, Std.ExtTreeMap.getElem?_insert, Std.LawfulEqCmp.compare_eq_iff_eq]

theorem run_collect {x : String} {t : Txn} (h : σ.txns[x]? = some t) (c : Change) :
    (collect x c).run.run σ = (.ok (), σ.collected x t c) := by
  have htxn := run_txn x σ
  rw [h] at htxn
  rw [collect, run_bind_ok htxn]
  rfl

/-- A transaction that was made the writer. -/
theorem Promotion.exists_writer {x : String} {σ' : SharedStore} (h : Promotion x σ (.ok true) σ') :
    ∃ t, σ'.txns[x]? = some t ∧ t.mode = .write := by
  cases h with
  | already h hmode => exact ⟨_, h, hmode⟩
  | @turns t h hmode htype hfree =>
    exact ⟨{ t with mode := .write }, Std.ExtTreeMap.getElem?_insert_self, rfl⟩

/-- What becomes of a change that a transaction is to collect: the answer, and the store after
it. -/
inductive Collection (x : String) (c : Change) (σ : SharedStore) :
    Except Error Unit → SharedStore → Prop where
  /-- The transaction is not the writer. -/
  | notWriter {e : Error} : Collection x c σ (.error e) σ
  /-- The store does not take the change. -/
  | refused {σ' : SharedStore} {e : Error} {events : List Event}
    (h : Promotion x σ (.ok true) σ') : Collection x c σ (.error e) { σ' with events }
  /-- The change is collected. -/
  | accepted {σ' : SharedStore} {t : Txn} (h : Promotion x σ (.ok true) σ')
    (ht : σ'.txns[x]? = some t) (hmode : t.mode = .write) (haccepts : σ.store.Accepts c) :
    Collection x c σ (.ok ()) (σ'.collected x t c)

theorem Collection.store_eq {x : String} {c : Change} {r : Except Error Unit} {σ' : SharedStore}
    (h : Collection x c σ r σ') : σ'.store = σ.store := by
  cases h with
  | notWriter => rfl
  | refused hpromotion => exact hpromotion.store_eq
  | accepted hpromotion ht hmode haccepts => exact hpromotion.store_eq

theorem collection_add (x : String) (pattern : Triple) (labels : List Label) (σ : SharedStore) :
    Collection x (.add pattern labels) σ ((add x pattern labels).run.run σ).1
      ((add x pattern labels).run.run σ).2 := by
  rcases run_requireWriter x σ with ⟨e, hrun⟩ | ⟨σ', hrun, hwriter⟩
  · rw [add, run_bind_error hrun]
    exact .notWriter
  rw [add, run_bind_ok hrun, run_get_bind]
  cases hcheck : σ'.store.checkEntry pattern labels with
  | error e => exact .refused hwriter
  | ok a =>
    have hlift : (liftM (Except.ok a : Except Error Unit) : SharedM Unit).run.run σ'
        = (.ok a, σ') := rfl
    obtain ⟨t, ht, hmode⟩ := hwriter.exists_writer
    rw [hwriter.store_eq] at hcheck
    rw [run_bind_ok hlift, run_collect ht]
    exact .accepted hwriter ht hmode hcheck

theorem run_requireRemove (pattern : Triple) (σ : SharedStore) :
    (requireRemove pattern).run.run σ = if σ.store.supportsRemove then (.ok (), σ)
      else (.error (.unsupported .removal),
        { σ with events := σ.events ++ [.removalRefused pattern] }) := by
  rw [requireRemove, run_get_bind]
  cases σ.store.supportsRemove with
  | true => rfl
  | false => rfl

theorem collection_remove (x : String) (pattern : Triple) (σ : SharedStore) :
    Collection x (.remove pattern) σ ((remove x pattern).run.run σ).1
      ((remove x pattern).run.run σ).2 := by
  rcases run_requireWriter x σ with ⟨e, hrun⟩ | ⟨σ', hrun, hwriter⟩
  · rw [remove, run_bind_error hrun]
    exact .notWriter
  have hremove := run_requireRemove pattern σ'
  rw [remove, run_bind_ok hrun]
  cases h : σ'.store.supportsRemove with
  | false =>
    rw [h, if_neg Bool.false_ne_true] at hremove
    rw [run_bind_error hremove]
    exact .refused hwriter
  | true =>
    rw [h, if_pos rfl] at hremove
    obtain ⟨t, ht, hmode⟩ := hwriter.exists_writer
    rw [hwriter.store_eq] at h
    rw [run_bind_ok hremove, run_collect ht]
    exact .accepted hwriter ht hmode h

/-! ### Applying changes -/

theorem run_commitChanges (batch : List Change) (σ : SharedStore) :
    (commitChanges batch).run.run σ =
      if batch.isEmpty then (.ok (), { σ with commits := σ.commits + 1 })
      else match (Store.apply batch).run.run σ.store with
        | (.ok _, S) => (.ok (), { σ with store := S, commits := σ.commits + 1 })
        | (.error e, S) => (.error e, { σ with store := S }) := by
  by_cases hempty : batch.isEmpty
  · simp only [commitChanges, hempty, Bool.not_true, Bool.false_eq_true, if_true, if_false]
    rfl
  · have happly := run_onStore (Store.apply batch) σ
    simp only [commitChanges, hempty, Bool.not_false, Bool.false_eq_true, if_true, if_false]
    rcases h : (Store.apply batch).run.run σ.store with ⟨e | ⟨⟩, S⟩
    · rw [h] at happly
      rw [run_bind_error happly]
    · rw [h] at happly
      rw [run_bind_ok happly]
      rfl

theorem txns_commitChanges (batch : List Change) (σ : SharedStore) :
    ((commitChanges batch).run.run σ).2.txns = σ.txns := by
  rw [run_commitChanges]
  split
  · rfl
  · split
    · rfl
    · rfl

theorem run_commit (x : String) (σ : SharedStore) :
    (commit x).run.run σ = match σ.txns[x]? with
      | some t => match t.mode with
        | .read => (.ok (), σ.ended x t)
        | .write => (commitChanges t.pending).run.run (σ.ended x t)
      | none => (.error (.conflict .finished), σ) := by
  have hfinish := run_finish x σ
  cases h : σ.txns[x]? with
  | some t =>
    rw [h] at hfinish
    rw [commit, run_bind_ok hfinish]
    dsimp only
    cases t.mode with
    | read => rfl
    | write => rfl
  | none =>
    rw [h] at hfinish
    rw [commit, run_bind_error hfinish]

theorem run_addAlone (pattern : Triple) (labels : List Label) (σ : SharedStore) :
    (addAlone pattern labels).run.run σ =
      if σ.writerActive then (.ok false, σ)
      else match σ.store.checkEntry pattern labels with
        | .error e => (.error e, σ)
        | .ok _ => (((commitChanges [.add pattern labels]).run.run σ).1.map fun _ => true,
            ((commitChanges [.add pattern labels]).run.run σ).2) := by
  rw [addAlone, run_get_bind]
  by_cases hactive : σ.writerActive
  · rw [if_pos hactive, if_pos hactive]
    rfl
  rw [if_neg hactive, if_neg hactive]
  cases h : σ.store.checkEntry pattern labels with
  | error e => rfl
  | ok a =>
    have hcheck : (liftM (Except.ok a : Except Error Unit) : SharedM Unit).run.run σ
        = (.ok a, σ) := rfl
    rw [run_bind_ok hcheck]
    exact run_map (fun _ => true) (commitChanges [.add pattern labels]) σ

theorem run_removeAlone (pattern : Triple) (σ : SharedStore) :
    (removeAlone pattern).run.run σ =
      if σ.writerActive then (.ok false, σ)
      else if σ.store.supportsRemove then
        (((commitChanges [.remove pattern]).run.run σ).1.map fun _ => true,
          ((commitChanges [.remove pattern]).run.run σ).2)
      else (.error (.unsupported .removal),
        { σ with events := σ.events ++ [.removalRefused pattern] }) := by
  have hremove := run_requireRemove pattern σ
  rw [removeAlone, run_get_bind]
  by_cases hactive : σ.writerActive
  · rw [if_pos hactive, if_pos hactive]
    rfl
  rw [if_neg hactive, if_neg hactive]
  by_cases h : σ.store.supportsRemove
  · rw [if_pos h] at hremove ⊢
    rw [run_bind_ok hremove]
    exact run_map (fun _ => true) (commitChanges [.remove pattern]) σ
  · rw [if_neg h] at hremove ⊢
    rw [run_bind_error hremove]

/-! ### Closing -/

theorem run_close {s : PersistentStore} (hs : σ.store = .persistent s) :
    close.run.run σ = (.ok (!s.closed),
      { σ with
        store := .persistent { s with closed := true }
        events := σ.events ++ if s.closed then [] else [.storeClosed s.dir] }) := by
  have hclose : PersistentStore.close.run s = (!s.closed, { s with closed := true }) := rfl
  rw [close, run_get_bind, hs]
  dsimp only
  rw [hclose, run_modify_bind]
  cases s.closed with
  | true =>
    rw [if_pos rfl, List.append_nil]
    rfl
  | false => rfl

end SharedStore

end Clearance
