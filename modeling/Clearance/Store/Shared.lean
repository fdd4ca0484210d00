import Clearance.Store.Basic
import Std.Data.ExtTreeMap

/-!
# Shared stores

Changes are made in *transactions*. Any number of transactions may read a store at the same time; at
most one of them is the writer, and holds the *writer slot* of the store until it ends. A
transaction collects its changes, and only its commit applies them, so that nobody sees them before,
not even the transaction itself. A transaction may begin as the writer, may become the writer later,
or only ever reads; a change that is made alone is a transaction of its own. What would have to wait
for the slot is answered `false` and does nothing.

## Main definitions

* `Clearance.Txn`, `Clearance.SharedStore` — transactions, and stores with the transactions on them.
* `Clearance.SharedStore.start`, `Clearance.SharedStore.promote`, `Clearance.SharedStore.add`,
  `Clearance.SharedStore.remove`, `Clearance.SharedStore.lookup` — the work of a transaction.
* `Clearance.SharedStore.commit`, `Clearance.SharedStore.abort`, `Clearance.SharedStore.discard` —
  its end.
* `Clearance.SharedStore.addAlone`, `Clearance.SharedStore.removeAlone` — changes made alone.
-/

namespace Clearance

/-- What a transaction may become. -/
inductive TxnType where
  /-- It only reads. -/
  | read
  /-- It is the writer from the beginning. -/
  | write
  /-- It reads and may become the writer. -/
  | readPromote
  /-- It reads and may become the writer of what was committed since. No store offers this. -/
  | readCommittedPromote
deriving DecidableEq, Repr

/-- What a transaction is. -/
inductive TxnMode where
  /-- A reader. -/
  | read
  /-- The writer. -/
  | write
deriving DecidableEq, Repr

/-- A transaction that has not ended. -/
structure Txn where
  /-- What it may become. -/
  type : TxnType
  /-- What it is. -/
  mode : TxnMode
  /-- The changes that it has collected. -/
  pending : List Change := []
deriving DecidableEq, Repr

/-- A store and the transactions on it. -/
structure SharedStore where
  /-- The store. -/
  store : Store
  /-- Whether the writer slot is taken. -/
  writerActive : Bool := false
  /-- The number of commits of writers. -/
  commits : Nat := 0
  /-- The transactions that have not ended, by name. -/
  txns : Std.ExtTreeMap String Txn := ∅
  /-- The events, in order. -/
  events : List Event := []

/-- Computations on a shared store that may fail. -/
abbrev SharedM := ExceptT Error (StateM SharedStore)

namespace SharedStore

/-- Reports an event. -/
def report (e : Event) : SharedM Unit := modify fun s => { s with events := s.events ++ [e] }

/-- Runs a computation on the store. -/
def onStore {α : Type} (x : StoreM α) : SharedM α := ExceptT.mk do
  let s ← get
  let (r, store) := x.run.run s.store
  set { s with store }
  return r

/-- The transaction with a name. -/
def txn (x : String) : SharedM Txn := do
  match (← get).txns[x]? with
  | some t => return t
  | none => throw (.conflict .finished)

/-- Replaces the transaction with a name. -/
def setTxn (x : String) (t : Txn) : SharedM Unit :=
  modify fun s => { s with txns := s.txns.insert x t }

/-- Takes the writer slot, if it is free. -/
def takeSlot : SharedM Bool := do
  if (← get).writerActive then return false
  modify fun s => { s with writerActive := true }
  return true

/-- Ends a transaction, frees the slot if it is the writer, and answers with it. -/
def finish (x : String) : SharedM Txn := do
  let t ← txn x
  modify fun s => { s with
    txns := s.txns.erase x
    writerActive := s.writerActive && t.mode ≠ .write }
  return t

/-- Ends a transaction that was forgotten, without its changes. -/
def discard (x : String) : SharedM Unit := do
  let t ← finish x
  if !t.pending.isEmpty then report (.changesDiscarded t.pending.length)

/-- Lets a name stand for a transaction. The transaction that had the name is forgotten. -/
def enter (x : String) (t : Txn) : SharedM Unit := do
  if (← get).txns.contains x then discard x
  setTxn x t

/-! ### The work of a transaction -/

/-- Begins a transaction. -/
def start (x : String) : TxnType → SharedM Bool
  | .readCommittedPromote => throw (.unsupported .readCommittedPromote)
  | .write => do
    if ← takeSlot then
      enter x { type := .write, mode := .write }
      return true
    else return false
  | type => do
    enter x { type, mode := .read }
    return true

/-- Makes a transaction the writer. -/
def promote (x : String) : SharedM Bool := do
  let t ← txn x
  match t.mode, t.type with
  | .write, _ => return true
  | .read, .readPromote =>
    if ← takeSlot then
      setTxn x { t with mode := .write }
      return true
    else return false
  | .read, _ => throw (.conflict .readOnly)

/-- Makes a transaction the writer, or else fails. -/
def requireWriter (x : String) : SharedM Unit := do
  if ← promote x then return () else throw (.conflict .writerActive)

/-- Adds a change to a transaction. -/
def collect (x : String) (c : Change) : SharedM Unit := do
  let t ← txn x
  setTxn x { t with pending := t.pending ++ [c] }

/-- Fails if the store only grows. -/
def requireRemove (t : Triple) : SharedM Unit := do
  if (← get).store.supportsRemove then return ()
  report (.removalRefused t)
  throw (.unsupported .removal)

/-- Adds labels for a pattern in a transaction. -/
def add (x : String) (pattern : Triple) (labels : List Label) : SharedM Unit := do
  requireWriter x
  liftM ((← get).store.checkEntry pattern labels)
  collect x (.add pattern labels)

/-- Removes what is recorded for a pattern, in a transaction. -/
def remove (x : String) (pattern : Triple) : SharedM Unit := do
  requireWriter x
  requireRemove pattern
  collect x (.remove pattern)

/-- The labels of a concrete triple, as last committed. -/
def lookup (t : Triple) : SharedM (List Label) := onStore (Store.lookup t)

/-! ### The end of a transaction -/

/-- Applies the changes of a writer and counts its commit. -/
def commitChanges (batch : List Change) : SharedM Unit := do
  if !batch.isEmpty then onStore (Store.apply batch)
  modify fun s => { s with commits := s.commits + 1 }

/-- Commits a transaction. It ends also when its changes are refused. -/
def commit (x : String) : SharedM Unit := do
  let t ← finish x
  match t.mode with
  | .read => return ()
  | .write => commitChanges t.pending

/-- Ends a transaction without its changes. -/
def abort (x : String) : SharedM Unit := do
  let _ ← finish x

/-! ### Changes made alone -/

/-- Adds labels for a pattern. -/
def addAlone (pattern : Triple) (labels : List Label) : SharedM Bool := do
  let s ← get
  if s.writerActive then return false
  liftM (s.store.checkEntry pattern labels)
  commitChanges [.add pattern labels]
  return true

/-- Removes what is recorded for a pattern. -/
def removeAlone (pattern : Triple) : SharedM Bool := do
  if (← get).writerActive then return false
  requireRemove pattern
  commitChanges [.remove pattern]
  return true

/-! ### Upkeep -/

/-- Compacts what the store keeps on disk, and answers whether it keeps anything. -/
def compact : SharedM Bool := do
  match ← liftM (← get).store.compact with
  | some dir =>
    report (.storeCompacted dir)
    return true
  | none => return false

/-- Closes the store if it is persistent, and answers whether it was open. -/
def close : SharedM Bool := do
  match (← get).store with
  | .persistent s =>
    let (wasOpen, s) := PersistentStore.close.run s
    modify fun shared => { shared with store := .persistent s }
    if wasOpen then report (.storeClosed s.dir)
    return wasOpen
  | _ => return false

end SharedStore

end Clearance
