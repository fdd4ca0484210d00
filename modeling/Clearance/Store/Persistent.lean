import Clearance.BoundedCache
import Clearance.Codec.Key
import Clearance.Codec.LabelList
import Clearance.Event
import Clearance.Node.Canonical
import Clearance.Store.Database
import Clearance.Store.Memory

/-!
# Persistent stores

A persistent store writes canonical patterns and their labels to a database. A batch of changes is
encoded first and then written as a whole: when a change is refused, a key or a list of labels does
not fit its buffer, or the database refuses, the store is as it was. Lookups go through a cache,
which a write empties. A store only grows: it refuses removals. The database remembers the format of
the keys, the numbers given to nodes, and whether a pattern with a wildcard has ever been written,
so that a store that is opened on it anew goes on where the last one ended.

## Main definitions

* `Clearance.PersistentStore`, `Clearance.PersistentStore.attach` — stores, and opening one.
* `Clearance.PersistentStore.lookup`, `Clearance.PersistentStore.apply` — reading and writing.
* `Clearance.PersistentStore.listing` — all entries.
* `Clearance.PersistentStore.consult` — reading the database, which may be out of reach.
* `Clearance.PersistentStore.close`.
-/

namespace Clearance

/-- A persistent store. -/
structure PersistentStore where
  /-- The directory of the database, as it was given. -/
  dir : String
  /-- The options. -/
  options : StoreOptions
  /-- The database. -/
  db : Database
  /-- What can be done with the database. -/
  access : Access := {}
  /-- How often the database has been read since the store was opened. -/
  reads : Nat := 0
  /-- The numbers of the nodes, if keys hold numbers. -/
  table : NodeTable
  /-- Whether a pattern with a wildcard has ever been written. -/
  patternsLoaded : Bool
  /-- The answers to lookups. -/
  cache : BoundedCache Triple (List Label)
  /-- The number of batches written since the store was opened. -/
  generation : Nat := 0
  /-- Whether the store is closed. -/
  closed : Bool := false

/-- Computations on a store that may fail. -/
abbrev PersistentM := ExceptT Error (StateM PersistentStore)

namespace PersistentStore

/-! ### Opening -/

/-- The setting that holds the name of the key format. -/
def formatSetting : String := "format"

/-- The setting that says whether a pattern with a wildcard has ever been written. -/
def patternsSetting : String := "patterns_loaded"

/-- The value of a setting that holds. -/
def holds : String := "true"

/-- Whether no store has been opened on a database before. -/
def isNew (db : Database) : Bool := (db.setting? formatSetting).isNone

/-- Checks that a database has a given key format, and records it in a new one. -/
def claimFormat (dir : String) (access : Access) (format : KeyFormat) :
    ExceptT Error (StateM Database) Unit := do
  match (← get).setting? formatSetting with
  | some recorded =>
    if recorded ≠ format.name then throw (.invalid (.formatMismatch dir recorded format.name))
  | none =>
    if !access.writable then throw .backend
    modify fun db => db.setSetting formatSetting format.name

/-- The nodes that a database has numbers for. -/
def savedNodes (db : Database) : Except Error (List (Nat × Node)) :=
  db.nodeRows.mapM fun (id, term) => do
    let n ← (Node.ofTerm term.toList).mapError Error.corrupt
    return (id, n)

/-- The table of nodes for the keys of a database. -/
def savedTable (db : Database) : KeyFormat → Except Error NodeTable
  | .byNodeId => do
    match NodeTable.empty.load (← savedNodes db) with
    | (.ok _, table) => return table
    | (.error fault, _) => throw (.corrupt fault)
  | _ => .ok .empty

/-- Opens a store on a database. -/
def attach (dir : String) (access : Access) (options : StoreOptions) :
    ExceptT Error (StateM Database) PersistentStore := do
  claimFormat dir access options.format
  let db ← get
  let table ← liftM (savedTable db options.format)
  return {
    dir, options, db, access, table
    patternsLoaded := db.setting? patternsSetting = some holds
    cache := { capacity := options.lookupCacheSize } }

/-- Computations that may read a database, and count how often they do. -/
abbrev ReadM := ExceptT Error (StateM Nat)

/-- Reads a database, if it can be read. -/
def consult (a : Access) : ReadM Unit := do
  if a.readable && (a.joinable || (← get) ≠ 0) then modify (· + 1) else throw .backend

/-- Runs a computation that may read the database. -/
def read {α : Type} (x : ReadM α) : PersistentM α := ExceptT.mk do
  let s ← get
  let (r, reads) := x.run.run s.reads
  set { s with reads }
  return r

/-- Fails if the store is closed. -/
def requireOpen : PersistentM Unit := do
  if (← get).closed then throw .closed

/-! ### Keys -/

/-- The key of the pattern that matches everything. -/
def everythingKey : Bytes := [0x0a]

/-- Writes the key of a pattern of a given shape, and answers whether there is one. -/
def encodeKey (format : KeyFormat) (shape : Shape) (pattern : Triple) (use : KeyUse) :
    EncodeM NodeTable Bool :=
  match shape with
  | .exact => format.encodeTriple pattern use
  | .subjectPredicate => format.encodeTriple pattern use
  | .subject => format.encodeNode pattern.s use
  | .predicate => format.encodeNode pattern.p use
  | .everything => do
    EncodeM.put everythingKey
    return true

/-- Reads the pattern of a key. -/
def decodePattern (format : KeyFormat) (table : NodeTable) : Keyspace → DecodeM Triple
  | .triples => format.decodeTriple table
  | .subjects => return ⟨← format.decodeNode table, .any, .any⟩
  | .predicates => return ⟨.any, ← format.decodeNode table, .any⟩
  | .everything => do
    let _ ← ByteReader.take (← get).rest.length
    return ⟨.any, .any, .any⟩

/-- Reads a whole key. -/
def decodeKey (format : KeyFormat) (table : NodeTable) (space : Keyspace) (key : Bytes) :
    Except Error Triple :=
  DecodeM.readFrom (do
    let pattern ← decodePattern format table space
    let left := (← get).rest.length
    if left ≠ 0 then throw (.corrupt (.trailingKey left space.name))
    return pattern) key

/-- What an encoder writes to a fresh buffer, given a table of nodes. -/
def encoded {α : Type} (capacity : Nat) (x : EncodeM NodeTable α) :
    ExceptT Error (StateM NodeTable) (α × Bytes) := fun table =>
  match x.run.run { buffer := { capacity }, table } with
  | (.ok a, sheet) => (.ok (a, sheet.buffer.bytes), sheet.table)
  | (.error e, sheet) => (.error e, sheet.table)

/-! ### Reading -/

/-- The labels that the database has for a pattern. It is read only if there is a key for the
pattern. -/
def probe (s : PersistentStore) (shape : Shape) (key : Triple) : ReadM (List Label) := do
  let (known, key) ← liftM
    ((encoded s.options.bufferCapacity (encodeKey s.options.format shape key .lookup)).run.run
      s.table).1
  if known then
    consult s.access
    match s.db.find? (.ofShape shape) key with
    | some value => liftM (LabelList.decode value)
    | none => return []
  else return []

/-- The labels of a concrete triple, as the database has them. -/
def resolved (s : PersistentStore) (t : Triple) : ReadM (List Label) :=
  resolve t s.patternsLoaded s.probe

/-- The labels of a concrete triple. Failures are not cached. -/
def lookup (t : Triple) : PersistentM (List Label) := do
  requireOpen
  let s ← get
  match s.cache.get t.canonical with
  | (some labels, cache) =>
    set { s with cache }
    return labels
  | (none, cache) =>
    set { s with cache }
    let labels ← read (s.resolved t.canonical)
    modify fun s => { s with cache := cache.insert t.canonical labels }
    return labels

/-! ### Writing -/

/-- The entry that a change writes, with the shape of its pattern. Nodes without a number get
one. -/
def entryOf (options : StoreOptions) : Change → ExceptT Error (StateM NodeTable) (Shape × Put)
  | .add pattern labels => do
    let pattern := pattern.canonical
    let shape ← liftM (Shape.ofPattern pattern)
    let (_, key) ←
      encoded options.bufferCapacity (encodeKey options.format shape pattern .store)
    let (_, value) ← encoded options.bufferCapacity (LabelList.encode labels)
    return (shape, ⟨.ofShape shape, key, value⟩)
  | .remove pattern => throw (.unsupported (.removalOf pattern))

/-- The entries that a batch writes, with the shapes of their patterns. -/
def entriesOf (options : StoreOptions) : List Change →
    ExceptT Error (StateM NodeTable) (List (Shape × Put))
  | [] => return []
  | c :: cs => do
    let entry ← entryOf options c
    return entry :: (← entriesOf options cs)

/-- What a batch with given entries writes. The numbers above a mark are new. -/
def writeSet (s : PersistentStore) (entries : List (Shape × Put)) (table : NodeTable) (mark : Nat) :
    WriteSet where
  puts := entries.map Prod.snd
  nodes := (table.allocatedSince mark).map fun (id, n) => (id, String.ofList n.term)
  settings :=
    if entries.any (·.1.hasWildcard) && !s.patternsLoaded then [(patternsSetting, holds)] else []

/-- Writes a batch of changes, all of them or none. After a failure the numbers that it gave to
nodes are taken back. -/
def apply (batch : List Change) : PersistentM Unit := do
  requireOpen
  let s ← get
  let mark := s.table.size
  match (entriesOf s.options batch).run.run s.table with
  | (.error e, table) =>
    set { s with table := table.truncate mark }
    throw e
  | (.ok entries, table) =>
    match s.access.write s.db s.options.mode (s.writeSet entries table mark) with
    | .error e =>
      set { s with table := table.truncate mark }
      throw e
    | .ok db =>
      set { s with
        db, table
        patternsLoaded := s.patternsLoaded || entries.any (·.1.hasWildcard)
        generation := s.generation + 1
        cache := s.cache.clear }

/-! ### Listing -/

/-- All rows, with their tables. -/
def rows (db : Database) : List (Keyspace × Bytes × Bytes) :=
  Keyspace.all.flatMap fun space => (db.scan space).map fun row => (space, row)

/-- The entry that a row holds. -/
def entryOfRow (s : PersistentStore) (row : Keyspace × Bytes × Bytes) :
    Except Error (Triple × List Label) := do
  let (space, key, value) := row
  return (← decodeKey s.options.format s.table space key, ← LabelList.decode value)

/-- The entries that rows hold, up to one that cannot be read. -/
def entriesOfRows (s : PersistentStore) :
    List (Keyspace × Bytes × Bytes) → List (Triple × List Label) × Except Error Unit
  | [] => ([], .ok ())
  | row :: rows => match s.entryOfRow row with
    | .error e => ([], .error e)
    | .ok entry =>
      let (entries, r) := s.entriesOfRows rows
      (entry :: entries, r)

/-- All entries in the order of their rows. When there is a failure, the entries are those that were
read before it. -/
def listing : StateM PersistentStore (List (Triple × List Label) × Except Error Unit) := do
  let s ← get
  if !s.options.format.isReversible then
    return ([], .error (.unsupported (.listing s.options.format.name)))
  match ← (do requireOpen; read (consult s.access) : PersistentM Unit).run with
  | .ok _ => return s.entriesOfRows (rows s.db)
  | .error e => return ([], .error e)

/-- Whether nothing is recorded. -/
def isEmpty : PersistentM Bool := do
  requireOpen
  let s ← get
  read (consult s.access)
  return s.db.isEmpty

/-- What there is to know of a store. -/
def properties : PersistentM (List (String × String)) := do
  requireOpen
  let s ← get
  read (consult s.access)
  let counts :=
    Keyspace.all.map fun space => ("entries." ++ space.name, toString (s.db.count space))
  let ids := if s.options.format = .byNodeId then [("node_ids", toString s.table.size)] else []
  return [("kind", "persistent"), ("path", s.dir), ("format", s.options.format.name),
    ("mode", s.options.mode.name)] ++ counts
    ++ [("patterns_loaded", toString s.patternsLoaded)] ++ ids

/-! ### Closing -/

/-- Closes a store, and answers whether it was open. -/
def close : StateM PersistentStore Bool := do
  let s ← get
  set { s with closed := true }
  return !s.closed

end PersistentStore

end Clearance
