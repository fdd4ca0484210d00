import Clearance.Proofs.Running
import Clearance.Store.Shared

/-!
# Histories of shared stores

A history is a list of requests to a store with transactions: transactions begin, collect changes
and end in any order, changes are made alone or handed over as a batch, the store is read, listed,
closed and opened again. Every request has an answer or fails; the history goes on in both cases.

## Main definitions

* `Clearance.SharedStore.Op`, `Clearance.SharedStore.Answer` — requests and answers.
* `Clearance.SharedStore.reopen` — opening the database of a store again.
* `Clearance.SharedStore.run` — the answers to a history, and the store after it.
-/

namespace Clearance.SharedStore

/-- Closes a persistent store and opens its database again with the same options. The transactions
on it are gone then. There is nothing to be done for a store that is not persistent. -/
def reopen : SharedM Unit := do
  let σ ← get
  match σ.store with
  | .persistent s =>
    match (PersistentStore.attach s.dir s.access s.options).run.run s.db with
    | (.ok s, _) => set ({ store := .persistent s, events := σ.events } : SharedStore)
    | (.error e, _) => throw e
  | _ => return ()

/-- The result of opening a store again. -/
theorem run_reopen_eq {σ : SharedStore} {s : PersistentStore} (hs : σ.store = .persistent s) :
    reopen.run.run σ
      = match ((PersistentStore.attach s.dir s.access s.options).run.run s.db).1 with
        | .ok r => (.ok (), { store := .persistent r, events := σ.events })
        | .error e => (.error e, σ) := by
  rw [reopen, run_get_bind, hs]
  dsimp only
  rcases (PersistentStore.attach s.dir s.access s.options).run.run s.db with ⟨e | r, db⟩
  · rfl
  · rfl

/-- A request to a store with transactions. -/
inductive Op where
  /-- A transaction begins. -/
  | start (x : String) (type : TxnType)
  /-- A transaction becomes the writer. -/
  | promote (x : String)
  /-- Labels are added in a transaction. -/
  | add (x : String) (pattern : Triple) (labels : List Label)
  /-- What is recorded for a pattern is removed in a transaction. -/
  | remove (x : String) (pattern : Triple)
  /-- A transaction ends and its changes are applied. -/
  | commit (x : String)
  /-- A transaction ends without its changes. -/
  | abort (x : String)
  /-- A transaction is forgotten. -/
  | discard (x : String)
  /-- Labels are added alone. -/
  | addAlone (pattern : Triple) (labels : List Label)
  /-- What is recorded for a pattern is removed alone. -/
  | removeAlone (pattern : Triple)
  /-- A batch is applied that no transaction has collected. -/
  | apply (batch : List Change)
  /-- The labels of a triple are looked up. -/
  | lookup (t : Triple)
  /-- The store is asked whether nothing is recorded. -/
  | isEmpty
  /-- All entries are listed. -/
  | graph
  /-- The store is asked what there is to know of it. -/
  | properties
  /-- The store is compacted. -/
  | compact
  /-- The store is closed. -/
  | close
  /-- The store is opened again. -/
  | reopen
deriving DecidableEq

/-- An answer to a request. -/
inductive Answer where
  /-- There is nothing to say. -/
  | done
  /-- Yes or no. -/
  | flag (b : Bool)
  /-- Labels. -/
  | labels (ls : List Label)
  /-- Entries. -/
  | entries (es : List (Triple × List Label))
  /-- Properties. -/
  | facts (fs : List (String × String))
deriving DecidableEq

/-- The work that a request asks for. -/
def Op.perform : Op → SharedM Answer
  | .start x type => Answer.flag <$> SharedStore.start x type
  | .promote x => Answer.flag <$> SharedStore.promote x
  | .add x pattern labels => (fun _ => Answer.done) <$> SharedStore.add x pattern labels
  | .remove x pattern => (fun _ => Answer.done) <$> SharedStore.remove x pattern
  | .commit x => (fun _ => Answer.done) <$> SharedStore.commit x
  | .abort x => (fun _ => Answer.done) <$> SharedStore.abort x
  | .discard x => (fun _ => Answer.done) <$> SharedStore.discard x
  | .addAlone pattern labels => Answer.flag <$> SharedStore.addAlone pattern labels
  | .removeAlone pattern => Answer.flag <$> SharedStore.removeAlone pattern
  | .apply batch => (fun _ => Answer.done) <$> onStore (Store.apply batch)
  | .lookup t => Answer.labels <$> SharedStore.lookup t
  | .isEmpty => Answer.flag <$> onStore Store.isEmpty
  | .graph => Answer.entries <$> onStore Store.graph
  | .properties => Answer.facts <$> onStore Store.properties
  | .compact => Answer.flag <$> SharedStore.compact
  | .close => Answer.flag <$> SharedStore.close
  | .reopen => (fun _ => Answer.done) <$> SharedStore.reopen

/-- The answers to requests that are made one after the other, and the store after them. -/
def run : List Op → SharedStore → List (Except Error Answer) × SharedStore
  | [], σ => ([], σ)
  | op :: ops, σ =>
    let (answer, σ) := op.perform.run.run σ
    let (answers, σ) := run ops σ
    (answer :: answers, σ)

theorem run_cons (op : Op) (ops : List Op) (σ : SharedStore) :
    run (op :: ops) σ
      = ((op.perform.run.run σ).1 :: (run ops (op.perform.run.run σ).2).1,
          (run ops (op.perform.run.run σ).2).2) := rfl

end Clearance.SharedStore
