import Clearance.Proofs.SharedStore.History
import Clearance.Proofs.SharedStore.Steps

/-!
# What becomes of a request

There are only a few ways in which a request can go: a transaction begins, is made the writer,
collects a change or ends, with its changes or without them; a change is applied alone; there is
work on the store itself; the store is closed or opened again; or what was asked for is refused, and
nothing but an event is left of it. One relation says which ways there are, when each is taken, what
the answer is then and what the store is left as. What requests keep is proved along it.

## Main definitions

* `Clearance.SharedStore.Op.IsTransactional`, `Clearance.SharedStore.Op.NeedsSlot` — the requests of
  transactions, and those that wait for the slot.
* `Clearance.SharedStore.Op.Collects`, `Clearance.SharedStore.Op.Finishes`,
  `Clearance.SharedStore.Op.ChangesAlone`, `Clearance.SharedStore.Op.IsWork`,
  `Clearance.SharedStore.Op.IsUpkeep` — what requests are made for.
* `Clearance.SharedStore.Outcome` — what becomes of a request.

## Main results

* `Clearance.SharedStore.outcome_perform` — this becomes of every request.
-/

namespace Clearance.SharedStore

/-! ### Requests -/

/-- Whether a request is one of those that transactions make, a change that is made alone, or a
lookup. -/
def Op.IsTransactional : Op → Prop
  | .start _ _ => True
  | .promote _ => True
  | .add _ _ _ => True
  | .remove _ _ => True
  | .commit _ => True
  | .abort _ => True
  | .discard _ => True
  | .addAlone _ _ => True
  | .removeAlone _ => True
  | .lookup _ => True
  | _ => False

/-- Whether a request waits for the slot. -/
def Op.NeedsSlot : Op → Prop
  | .start _ .write => True
  | .addAlone _ _ => True
  | .removeAlone _ => True
  | _ => False

/-- Whether a request has a change collected by the transaction with a name. -/
inductive Op.Collects (x : String) : Op → Change → Prop where
  /-- Labels are added. -/
  | add (pattern : Triple) (labels : List Label) :
    Collects x (.add x pattern labels) (.add pattern labels)
  /-- What is recorded for a pattern is removed. -/
  | remove (pattern : Triple) : Collects x (.remove x pattern) (.remove pattern)

/-- Whether a request ends the transaction with a name. -/
inductive Op.Finishes (x : String) : Op → Prop where
  /-- With its changes, if it is the writer. -/
  | commit : Finishes x (.commit x)
  /-- Without its changes. -/
  | abort : Finishes x (.abort x)
  /-- Because it was forgotten. -/
  | discard : Finishes x (.discard x)

/-- Whether a request has a change made alone. -/
inductive Op.ChangesAlone : Op → Change → Prop where
  /-- Labels are added. -/
  | add (pattern : Triple) (labels : List Label) :
    ChangesAlone (.addAlone pattern labels) (.add pattern labels)
  /-- What is recorded for a pattern is removed. -/
  | remove (pattern : Triple) : ChangesAlone (.removeAlone pattern) (.remove pattern)

/-- Whether a request is work on the store itself. -/
inductive Op.IsWork : Op → StoreM Answer → Prop where
  /-- A batch is applied. -/
  | apply (batch : List Change) :
    IsWork (.apply batch) ((fun _ => Answer.done) <$> Store.apply batch)
  /-- A triple is looked up. -/
  | lookup (t : Triple) : IsWork (.lookup t) (Answer.labels <$> Store.lookup t)
  /-- The store is asked whether nothing is recorded. -/
  | isEmpty : IsWork .isEmpty (Answer.flag <$> Store.isEmpty)
  /-- The entries are listed. -/
  | graph : IsWork .graph (Answer.entries <$> Store.graph)
  /-- The store is asked what there is to know of it. -/
  | properties : IsWork .properties (Answer.facts <$> Store.properties)

/-- Whether a request is upkeep. -/
inductive Op.IsUpkeep : Op → Prop where
  /-- The store is compacted. -/
  | compact : IsUpkeep .compact
  /-- The store is closed. -/
  | close : IsUpkeep .close
  /-- The store is opened again. -/
  | reopen : IsUpkeep .reopen

/-! ### Outcomes -/

/-- What becomes of a request: the answer, and the store after it. -/
inductive Outcome (σ : SharedStore) : Op → Except Error Answer → SharedStore → Prop where
  /-- The slot is taken. -/
  | waits {op : Op} (hop : op.NeedsSlot) (hactive : σ.writerActive = true) :
    Outcome σ op (.ok (.flag false)) σ
  /-- No store offers the type. -/
  | notOffered (x : String) : Outcome σ (.start x .readCommittedPromote)
      (.error (.unsupported .readCommittedPromote)) σ
  /-- A reader begins. -/
  | reads (x : String) {type : TxnType} (hwrite : type ≠ .write)
    (hoffered : type ≠ .readCommittedPromote) :
    Outcome σ (.start x type) (.ok (.flag true)) (σ.entered x { type, mode := .read })
  /-- A writer begins. -/
  | writes (x : String) (hfree : σ.writerActive = false) :
    Outcome σ (.start x .write) (.ok (.flag true))
      ({ σ with writerActive := true }.entered x { type := .write, mode := .write })
  /-- A transaction is to be the writer. -/
  | promotes {x : String} {r : Except Error Bool} {σ' : SharedStore} (h : Promotion x σ r σ') :
    Outcome σ (.promote x) (r.map .flag) σ'
  /-- A transaction is to collect a change. -/
  | collects {x : String} {op : Op} {c : Change} {r : Except Error Unit} {σ' : SharedStore}
    (hop : op.Collects x c) (h : Collection x c σ r σ') :
    Outcome σ op (r.map fun _ => .done) σ'
  /-- There is no transaction that could end. -/
  | finished {x : String} {op : Op} (hop : op.Finishes x) (hx : σ.txns[x]? = none) :
    Outcome σ op (.error (.conflict .finished)) σ
  /-- A transaction ends, and has no changes or leaves them. -/
  | ends {x : String} {op : Op} {t : Txn} {events : List Event} (hop : op.Finishes x)
    (ht : σ.txns[x]? = some t) (hcommit : op = .commit x → t.mode = .read) :
    Outcome σ op (.ok .done) { σ.ended x t with events }
  /-- The changes of a writer are applied when it has ended. -/
  | commits {x : String} {t : Txn} (ht : σ.txns[x]? = some t) (hmode : t.mode = .write) :
    Outcome σ (.commit x)
      (((commitChanges t.pending).run.run (σ.ended x t)).1.map fun _ => .done)
      ((commitChanges t.pending).run.run (σ.ended x t)).2
  /-- The store does not take a change. -/
  | refuses {op : Op} {c : Change} {e : Error} {events : List Event} (hop : op.ChangesAlone c)
    (hfree : σ.writerActive = false) (hrefuses : ¬ σ.store.Accepts c) :
    Outcome σ op (.error e) { σ with events }
  /-- A change is applied alone. -/
  | applies {op : Op} {c : Change} (hop : op.ChangesAlone c) (hfree : σ.writerActive = false)
    (haccepts : σ.store.Accepts c) :
    Outcome σ op ((((commitChanges [c]).run.run σ).1.map fun _ => true).map .flag)
      ((commitChanges [c]).run.run σ).2
  /-- There is work on the store. -/
  | works {op : Op} {x : StoreM Answer} (hop : op.IsWork x) :
    Outcome σ op (x.run.run σ.store).1 { σ with store := (x.run.run σ.store).2 }
  /-- Upkeep leaves the store as it is. -/
  | keeps {op : Op} {r : Except Error Answer} {events : List Event} (hop : op.IsUpkeep) :
    Outcome σ op r { σ with events }
  /-- The store is closed. -/
  | closes {s : PersistentStore} {events : List Event} (hs : σ.store = .persistent s) :
    Outcome σ .close (.ok (.flag !s.closed))
      { σ with store := .persistent { s with closed := true }, events }
  /-- The store is opened again. -/
  | reopens {s s' : PersistentStore} {db : Database} (hs : σ.store = .persistent s)
    (h : (PersistentStore.attach s.dir s.access s.options).run.run s.db = (.ok s', db)) :
    Outcome σ .reopen (.ok .done) { store := .persistent s', events := σ.events }

/-! ### Requests have these outcomes -/

/-- A transaction begins, or waits, or cannot be had. -/
theorem outcome_start (x : String) (type : TxnType) (σ : SharedStore) :
    Outcome σ (.start x type) (((start x type).run.run σ).1.map .flag)
      ((start x type).run.run σ).2 := by
  cases type with
  | read =>
    rw [run_start_reader (by simp) (by simp)]
    exact .reads x (by simp) (by simp)
  | readPromote =>
    rw [run_start_reader (by simp) (by simp)]
    exact .reads x (by simp) (by simp)
  | readCommittedPromote => exact .notOffered x
  | write =>
    rw [run_start_writer]
    by_cases hactive : σ.writerActive
    · rw [if_pos hactive]
      exact .waits trivial hactive
    · rw [if_neg hactive]
      exact .writes x (Bool.eq_false_iff.2 hactive)

/-- A transaction is committed, or only ends. -/
theorem outcome_commit (x : String) (σ : SharedStore) :
    Outcome σ (.commit x) (((commit x).run.run σ).1.map fun _ => .done)
      ((commit x).run.run σ).2 := by
  rw [run_commit]
  cases ht : σ.txns[x]? with
  | none => exact .finished .commit ht
  | some t =>
    dsimp only
    cases hmode : t.mode with
    | read => exact .ends .commit ht fun _ => hmode
    | write => exact .commits ht hmode

/-- Labels are added alone, or not. -/
theorem outcome_addAlone (pattern : Triple) (labels : List Label) (σ : SharedStore) :
    Outcome σ (.addAlone pattern labels) (((addAlone pattern labels).run.run σ).1.map .flag)
      ((addAlone pattern labels).run.run σ).2 := by
  rw [run_addAlone]
  by_cases hactive : σ.writerActive
  · rw [if_pos hactive]
    exact .waits trivial hactive
  rw [if_neg hactive]
  have hfree := Bool.eq_false_iff.2 hactive
  cases hcheck : σ.store.checkEntry pattern labels with
  | error e => exact .refuses (.add pattern labels) hfree (by simp [Store.Accepts, hcheck])
  | ok a => exact .applies (.add pattern labels) hfree hcheck

/-- What is recorded for a pattern is removed alone, or not. -/
theorem outcome_removeAlone (pattern : Triple) (σ : SharedStore) :
    Outcome σ (.removeAlone pattern) (((removeAlone pattern).run.run σ).1.map .flag)
      ((removeAlone pattern).run.run σ).2 := by
  rw [run_removeAlone]
  by_cases hactive : σ.writerActive
  · rw [if_pos hactive]
    exact .waits trivial hactive
  rw [if_neg hactive]
  have hfree := Bool.eq_false_iff.2 hactive
  by_cases hsupports : σ.store.supportsRemove
  · rw [if_pos hsupports]
    exact .applies (.remove pattern) hfree hsupports
  · rw [if_neg hsupports]
    exact .refuses (.remove pattern) hfree hsupports

theorem run_map_onStore {α β : Type} (f : α → β) (x : StoreM α) (σ : SharedStore) :
    (f <$> onStore x).run.run σ
      = (((f <$> x).run.run σ.store).1,
          { σ with store := ((f <$> x).run.run σ.store).2 }) := by
  rw [run_map, run_map, run_onStore]

theorem outcome_compact (σ : SharedStore) :
    Outcome σ .compact ((compact.run.run σ).1.map .flag) (compact.run.run σ).2 := by
  rw [compact, run_get_bind]
  rcases σ.store.compact with e | _ | dir
  · exact .keeps .compact
  · exact .keeps .compact
  · exact .keeps .compact

theorem outcome_close (σ : SharedStore) :
    Outcome σ .close ((close.run.run σ).1.map .flag) (close.run.run σ).2 := by
  cases hs : σ.store with
  | persistent s =>
    rw [run_close hs]
    exact .closes hs
  | _ =>
    rw [close, run_get_bind, hs]
    exact .keeps .close

/-- A store whose database cannot be opened again stays as it is. -/
theorem outcome_reopen (σ : SharedStore) :
    Outcome σ .reopen ((reopen.run.run σ).1.map fun _ => .done) (reopen.run.run σ).2 := by
  cases hs : σ.store with
  | persistent s =>
    rw [run_reopen_eq hs]
    rcases hattach : (PersistentStore.attach s.dir s.access s.options).run.run s.db with
      ⟨e | s', db⟩
    · exact .keeps .reopen
    · exact .reopens hs hattach
  | _ =>
    rw [reopen, run_get_bind, hs]
    exact .keeps .reopen

/-- **What becomes of a request.** -/
theorem outcome_perform (op : Op) (σ : SharedStore) :
    Outcome σ op (op.perform.run.run σ).1 (op.perform.run.run σ).2 := by
  cases op with
  | start x type =>
    rw [Op.perform, run_map]
    exact outcome_start x type σ
  | promote x =>
    rw [Op.perform, run_map]
    exact .promotes (promotion x σ)
  | add x pattern labels =>
    rw [Op.perform, run_map]
    exact .collects (.add pattern labels) (collection_add x pattern labels σ)
  | remove x pattern =>
    rw [Op.perform, run_map]
    exact .collects (.remove pattern) (collection_remove x pattern σ)
  | commit x =>
    rw [Op.perform, run_map]
    exact outcome_commit x σ
  | abort x =>
    rw [Op.perform, run_map, run_abort]
    cases ht : σ.txns[x]? with
    | none => exact .finished .abort ht
    | some t => exact .ends .abort ht (by simp)
  | discard x =>
    rw [Op.perform, run_map, run_discard]
    cases ht : σ.txns[x]? with
    | none => exact .finished .discard ht
    | some t => exact .ends .discard ht (by simp)
  | addAlone pattern labels =>
    rw [Op.perform, run_map]
    exact outcome_addAlone pattern labels σ
  | removeAlone pattern =>
    rw [Op.perform, run_map]
    exact outcome_removeAlone pattern σ
  | apply batch =>
    rw [Op.perform, run_map_onStore]
    exact .works (.apply batch)
  | lookup t =>
    rw [Op.perform, lookup, run_map_onStore]
    exact .works (.lookup t)
  | isEmpty =>
    rw [Op.perform, run_map_onStore]
    exact .works .isEmpty
  | graph =>
    rw [Op.perform, run_map_onStore]
    exact .works .graph
  | properties =>
    rw [Op.perform, run_map_onStore]
    exact .works .properties
  | compact =>
    rw [Op.perform, run_map]
    exact outcome_compact σ
  | close =>
    rw [Op.perform, run_map]
    exact outcome_close σ
  | reopen =>
    rw [Op.perform, run_map]
    exact outcome_reopen σ

end Clearance.SharedStore
