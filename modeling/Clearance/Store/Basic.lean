import Clearance.Label.Validation
import Clearance.Store.Persistent

/-!
# Stores of labels

A store is kept in memory, is persistent, or is the empty store, which has no labels and takes none.
All stores answer the same requests. A pattern and its labels are checked when they are added: the
wildcards of the pattern must stand where they may, every label must be readable, and none may stand
twice.

## Main definitions

* `Clearance.Store` — stores.
* `Clearance.Store.lookup`, `Clearance.Store.apply`, `Clearance.Store.checkEntry`,
  `Clearance.Store.listing`, `Clearance.Store.graph` — what can be asked of a store.
-/

namespace Clearance

/-- A store of labels. -/
inductive Store where
  /-- A store in memory. -/
  | memory (s : MemoryStore)
  /-- The store without labels. -/
  | empty
  /-- A persistent store. -/
  | persistent (s : PersistentStore)

/-- Computations on a store that may fail. -/
abbrev StoreM := ExceptT Error (StateM Store)

namespace Store

/-- Runs a computation on a persistent store. -/
def onPersistent {α : Type} (x : StateM PersistentStore α) (s : PersistentStore) :
    StateM Store α := do
  let (a, s) := x.run s
  set (persistent s)
  return a

/-- The labels of a concrete triple. -/
def lookup (t : Triple) : StoreM (List Label) := do
  match ← get with
  | memory s => liftM (s.lookup t)
  | empty => resolve t false fun _ _ => return []
  | persistent s => ExceptT.mk (onPersistent (PersistentStore.lookup t).run s)

/-- Applies a batch of changes. -/
def apply (batch : List Change) : StoreM Unit := do
  match ← get with
  | memory s =>
    let (r, s) := s.apply batch
    set (memory s)
    liftM r
  | empty => if batch.isEmpty then return () else throw (.unsupported .emptyStoreWrite)
  | persistent s => ExceptT.mk (onPersistent (PersistentStore.apply batch).run s)

/-- Checks a pattern and labels that are to be added. -/
def checkEntry (s : Store) (pattern : Triple) (labels : List Label) : Except Error Unit :=
  match s with
  | empty => .error (.unsupported .emptyStoreAdd)
  | _ => do
    let _ ← Shape.ofPattern pattern
    Label.validate labels

/-- Whether entries can be removed. -/
def supportsRemove : Store → Bool
  | memory _ => true
  | _ => false

/-- All entries. When there is a failure, the entries are those that were read before it. -/
def listing : StateM Store (List (Triple × List Label) × Except Error Unit) := do
  match ← get with
  | memory s => return (s.graph, .ok ())
  | empty => return ([], .ok ())
  | persistent s => onPersistent PersistentStore.listing s

/-- All entries in the order of their patterns. -/
def graph : StoreM (List (Triple × List Label)) := ExceptT.mk do
  let (entries, r) ← listing
  return r.map fun _ => entries.mergeSort fun e f => (compare e.1 f.1).isLE

/-- Whether nothing is recorded. -/
def isEmpty : StoreM Bool := do
  match ← get with
  | memory s => return s.entries.isEmpty
  | empty => return true
  | persistent s => ExceptT.mk (onPersistent PersistentStore.isEmpty.run s)

/-- What there is to know of a store. -/
def properties : StoreM (List (String × String)) := do
  match ← get with
  | memory s => return s.properties
  | empty => return [("kind", "empty")]
  | persistent s => ExceptT.mk (onPersistent PersistentStore.properties.run s)

/-- The database of a store that keeps one. -/
def database? : Store → Option Database
  | persistent s => some s.db
  | _ => none

/-- Compacts what a store keeps on disk, and answers with the directory, if it keeps anything. -/
def compact : Store → Except Error (Option String)
  | persistent s =>
    if s.closed then .error .closed
    else if s.access.writable then .ok (some s.dir)
    else .error .backend
  | _ => .ok none

end Store

end Clearance
