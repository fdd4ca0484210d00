import Clearance.Disk.DatabaseFiles
import Clearance.Store.Shared

/-!
# Hosts of stores

A host holds the stores of an application and the disk that persistent stores keep their databases
on. A store is held under *handles*, and as long as there are transactions on it; a store that
nobody holds closes itself. A transaction has a name, which no other transaction of the host has at
the same time. Stores that are opened on one directory share its database, and nothing else. To
share the store itself, directories are opened through the *registry* of the host: it hands out the
store that is open already, if it has the same options.

## Main definitions

* `Clearance.Host` — hosts.
* `Clearance.Host.onHandle` — the work on a store.
* `Clearance.Host.begin`, `Clearance.Host.onTxn` — the transactions of a host.
* `Clearance.Host.openPersistent`, `Clearance.Host.openRegistered`, `Clearance.Host.drop` — handles.
* `Clearance.Host.closeRegistered`, `Clearance.Host.registered` — the registry.
* `Clearance.Host.compact`, `Clearance.Host.databaseOf`, `Clearance.Host.writeDatabase` — databases.
-/

namespace Clearance

/-- A store in a host. -/
structure Held where
  /-- The store and the transactions on it. -/
  shared : SharedStore
  /-- The place of its database, if it is persistent. -/
  place? : Option Place := none
  /-- Whether the store was the last to write to its database. It then writes on from memory. -/
  wroteLast : Bool := false
  /-- Whether the store has read its database since it was last written to. It then reads on from
  memory. -/
  upToDate : Bool := false

/-- What holds the stores of an application. -/
structure Host where
  /-- The disk. -/
  disk : Disk := {}
  /-- The stores that are held, by number. -/
  stores : Std.ExtTreeMap Nat Held := ∅
  /-- The number of the next store. -/
  fresh : Nat := 0
  /-- The stores that handles stand for. -/
  handles : Std.ExtTreeMap String Nat := ∅
  /-- The stores last handed out for directories. -/
  registry : Std.ExtTreeMap Place Nat := ∅
  /-- The events, in order. -/
  events : List Event := []

/-- Computations in a host that may fail. -/
abbrev HostM := ExceptT Error (StateM Host)

/-- The persistent store that is held, if it is open. -/
def Held.live? (held : Held) : Option PersistentStore :=
  match held.shared.store with
  | .persistent s => if s.closed then none else some s
  | _ => none

/-- A store with the database as it is on the disk. A closed store is left as it is. One whose
database is out of reach keeps what it saw last. -/
def Held.load (held : Held) (d : Disk) : Held :=
  match held.place?, held.live? with
  | some place, some s =>
    let access := d.access place
    let access := { access with
      readable := access.readable || held.upToDate
      writable := access.writable || held.wroteLast }
    let s := { s with db := (d.content? place).getD s.db, access }
    { held with shared := { held.shared with store := .persistent s } }
  | _, _ => held

/-- A store when someone has written to the database at a place. -/
def Held.outdate (held : Held) (place : Place) : Held :=
  if held.place? = some place then { held with wroteLast := false, upToDate := false } else held

namespace Host

/-- Reports events. -/
def report (es : List Event) : HostM Unit :=
  modify fun host => { host with events := host.events ++ es }

/-- A result of the file system. -/
def ofDisk {α : Type} (r : Except IoFault α) : HostM α := liftM (r.mapError Error.io)

/-- Runs a computation on the disk. -/
def onDisk {α : Type} (x : DiskM α) : HostM α := ExceptT.mk do
  let host ← get
  let (r, disk) := x.run.run host.disk
  set { host with disk }
  return r.mapError Error.io

/-- Runs a computation on the files of a database. -/
def onFiles {α : Type} (x : FilesM α) : HostM α := ExceptT.mk do
  let host ← get
  let (r, disk) := x.run.run host.disk
  set { host with disk }
  return r

/-! ### Writing to a database, and leaving it -/

/-- Writes to the log what makes the database at a place a given one. -/
def record (place : Place) (db : Database) : HostM Unit :=
  modify fun host => { host with
    disk := host.disk.record place db
    stores := host.stores.map fun _ held => held.outdate place }

/-- Whether an open store works on the database at a place. -/
def isInUse (host : Host) (place : Place) : Bool :=
  host.stores.toList.any fun (_, held) => held.place? = some place && held.live?.isSome

/-- Leaves the files of the database at a place. Nothing is done to them as long as a store works on
the database. -/
def vacate (place : Place) : HostM Unit :=
  modify fun host =>
    if host.isInUse place then host else { host with disk := host.disk.disconnect place }

/-- Leaves the files of the database of a store that was open. One that has read it leaves them as
they are. -/
def leave (held : Held) : HostM Unit := do
  match held.place?, held.live? with
  | some place, some s => if s.reads = 0 then vacate place
  | _, _ => return ()

/-! ### Work on a store -/

/-- Whether somebody holds a store. -/
def isHeld (host : Host) (n : Nat) : Bool :=
  host.handles.toList.any (fun (_, m) => m = n)
    || host.stores.toList.any fun (m, held) => m = n && !held.shared.txns.isEmpty

/-- Lets go of a store unless somebody holds it. -/
def release (n : Nat) : HostM Unit := do
  let host ← get
  if host.isHeld n then return ()
  match host.stores[n]? with
  | none => return ()
  | some held =>
    set { host with stores := host.stores.erase n }
    match held.live? with
    | some s =>
      report [.storeClosed s.dir]
      leave held
    | none => return ()

/-- Takes over what the work on a store did with its database: what it wrote goes to the log. -/
def settle (n : Nat) (before after : PersistentStore) (place : Place) : HostM Unit := do
  let wrote := after.generation ≠ before.generation
  let read := after.reads ≠ before.reads
  if wrote then record place after.db
  modify fun host => { host with
    stores := host.stores.modify n fun held => { held with
      wroteLast := held.wroteLast || wrote
      upToDate := held.upToDate || read } }

/-- Runs a computation on the store with a number. There is nothing to be done with a store that
nobody holds. -/
def onStore {α : Type} (n : Nat) (x : SharedM α) : HostM α := do
  let host ← get
  match host.stores[n]? with
  | none => throw .closed
  | some held =>
    let loaded := held.load host.disk
    let (r, shared) := x.run.run loaded.shared
    let after := { held with shared := { shared with events := [] } }
    set { host with
      stores := host.stores.insert n after
      events := host.events ++ shared.events }
    match held.place?, loaded.live?, after.live? with
    | some place, some s, some t => settle n s t place
    | _, some _, none => leave loaded
    | _, _, _ => pure ()
    release n
    liftM r

/-- The number of the store that a handle stands for. -/
def number (h : String) : HostM Nat := do
  match (← get).handles[h]? with
  | some n => return n
  | none => throw .closed

/-- Runs a computation on the store that a handle stands for. -/
def onHandle {α : Type} (h : String) (x : SharedM α) : HostM α := do onStore (← number h) x

/-- The store on which there is a transaction with a name, if there is one. -/
def holder? (host : Host) (x : String) : Option Nat :=
  (host.stores.toList.find? fun (_, held) => held.shared.txns.contains x).map Prod.fst

/-- The store on which there is a transaction with a name. -/
def holderOf (x : String) : HostM Nat := do
  match (← get).holder? x with
  | some n => return n
  | none => throw (.conflict .finished)

/-- Runs a computation on the store on which there is a transaction with a name. -/
def onTxn {α : Type} (x : String) (y : SharedM α) : HostM α := do onStore (← holderOf x) y

/-- Begins a transaction on the store that a handle stands for. A name stands for one transaction of
the host: another one that had the name is forgotten, on whatever store it was. -/
def begin (h x : String) (type : TxnType) : HostM Bool := do
  let n ← number h
  let before? := (← get).holder? x
  let begun ← onStore n (SharedStore.start x type)
  match before? with
  | some m => if begun && m ≠ n then onStore m (SharedStore.discard x)
  | none => pure ()
  return begun

/-! ### Handles -/

/-- Lets a handle stand for a store. -/
def hold (h : String) (n : Nat) : HostM Unit := do
  let host ← get
  set { host with handles := host.handles.insert h n }
  match host.handles[h]? with
  | some before => release before
  | none => return ()

/-- Gives a number to a store. -/
def enrol (held : Held) : HostM Nat := do
  let host ← get
  set { host with stores := host.stores.insert host.fresh held, fresh := host.fresh + 1 }
  return host.fresh

/-- Holds a new store under a handle. -/
def openNew (h : String) (s : Store) : HostM Unit := do
  hold h (← enrol { shared := { store := s } })

/-- Opens the files of the database of a directory. -/
def openFiles (dir : String) : HostM Place := do
  let host ← get
  let place ← liftM (host.disk.databasePlace dir)
  onFiles (Disk.connect (host.isInUse place) place)
  return place

/-- Opens a store on the database at a place. -/
def attach (place : Place) (dir : String) (options : StoreOptions) (db : Database) :
    HostM Held := do
  let d := (← get).disk
  let (r, after) := (PersistentStore.attach dir (d.access place) options).run.run db
  let wroteLast := PersistentStore.isNew db && !PersistentStore.isNew after
  if wroteLast then record place after
  match r with
  | .ok s => return { shared := { store := .persistent s }, place? := some place, wroteLast }
  | .error e =>
    vacate place
    throw e

/-- Opens a store on the database of a directory, which is made if it is missing. -/
def openDirectory (dir : String) (options : StoreOptions) : HostM Nat := do
  onDisk (Disk.makeDirs dir)
  let place ← openFiles dir
  report [.databaseOpened (Disk.databasePath dir)]
  let db ← onFiles (Disk.makeTables place)
  let held ← attach place dir options db
  report [.storeOpened dir options.format options.mode]
  enrol held

/-- Opens a store on the database of a directory and holds it under a handle. -/
def openPersistent (h dir : String) (options : StoreOptions) : HostM Unit := do
  hold h (← openDirectory dir options)

/-- Forgets a handle. There is nothing to be done if it stands for no store. -/
def drop (h : String) : HostM Unit := do
  match (← get).handles[h]? with
  | some n =>
    modify fun host => { host with handles := host.handles.erase h }
    release n
  | none => return ()

/-! ### The registry -/

/-- The open store last handed out for a directory, if somebody holds it. -/
def live? (host : Host) (place : Place) : Option (Nat × PersistentStore) := do
  let n ← host.registry[place]?
  let held ← host.stores[n]?
  let s ← held.live?
  return (n, s)

/-- Opens a directory through the registry. -/
def openRegistered (h dir : String) (options : StoreOptions) : HostM Unit := do
  onDisk (Disk.makeDirs dir)
  let place ← ofDisk ((← get).disk.canonical dir)
  match (← get).live? place with
  | some (n, s) =>
    if s.options ≠ options then throw (.invalid (.alreadyOpen place.path s.options options))
    report [.storeReused place.path]
    hold h n
  | none =>
    let n ← openDirectory place.path options
    modify fun host => { host with registry := host.registry.insert place n }
    hold h n

/-- Closes the store that was handed out for a directory, and answers whether it was open. -/
def closeRegistered (dir : String) : HostM Bool := do
  let place ← ofDisk ((← get).disk.canonical dir)
  let host ← get
  set { host with registry := host.registry.erase place }
  match host.live? place with
  | some (n, _) => onStore n SharedStore.close
  | none => return false

/-- The number of directories whose stores are held. -/
def registered (host : Host) : Nat :=
  (host.registry.toList.filter fun (_, n) => host.stores.contains n).length

/-! ### Databases -/

/-- Compacts the store that a handle stands for, and answers whether it keeps anything on disk. -/
def compact (h : String) : HostM Bool := do
  let n ← number h
  let db? ← onStore n do
    if ← SharedStore.compact then return (← get).store.database? else return none
  match db?, (← get).stores[n]?.bind Held.place? with
  | some db, some place => onFiles (modify (·.carryOver place db))
  | _, _ => pure ()
  return db?.isSome

/-- The database of a directory, as it is on the disk. -/
def databaseOf (dir : String) : HostM Database := do
  let place ← openFiles dir
  onFiles (Disk.makeTables place)

/-- Writes to the database of a directory. -/
def writeDatabase (dir : String) (mode : WriteMode) (w : WriteSet) : HostM Unit := do
  let place ← openFiles dir
  let db ← onFiles (Disk.makeTables place)
  let r := ((← get).disk.access place).write db mode w
  match r with
  | .ok db => if !w.isEmpty then record place db
  | .error _ => pure ()
  vacate place
  let _ ← liftM r

end Host

end Clearance
