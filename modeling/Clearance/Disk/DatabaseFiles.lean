import Clearance.Disk.Basic

/-!
# The files of a database

A database lies on a disk in a *main file*, which may have three files beside it. What is written
goes to the *log*, and is carried over to the main file when the database is compacted, or when the
last one who has it open leaves without having read. The *index* of the log is there for all who
have the database open; where it cannot be made, the database can be read but not written. A
*journal* is what a change leaves behind that never ended: it is cleared away by the next one who
opens the database.

A log is *whole* if it goes back to a main file without tables. Whatever is in the main file then
does not count, as long as it is not blank: over a *blank* main file a new database is begun. A log
is *spoilt* if something was written over it while the database was open. Nobody can open the
database then, until all have left; those who have it open go on from memory.

## Main definitions

* `Clearance.Disk.databasePlace` — where the database of a directory is.
* `Clearance.Disk.content?`, `Clearance.Disk.access` — the database, and what can be done with it.
* `Clearance.Disk.connect`, `Clearance.Disk.makeTables`, `Clearance.Disk.disconnect` — opening the
  files and leaving them.
* `Clearance.Disk.record`, `Clearance.Disk.carryOver` — writing to the log, and to the main file.
-/

namespace Clearance

/-- Computations on the files of a database. What has been done before a failure stays done. -/
abbrev FilesM := ExceptT Error (StateM Disk)

namespace Place

/-- The place of a file in the same directory, with a longer name. -/
def beside (place : Place) (ending : String) : Place :=
  place.dropLast ++ place.getLast?.toList.map (· ++ ending)

/-- The place of the log of a database. -/
def log (place : Place) : Place := place.beside "-wal"

/-- The place of the index of a log. -/
def index (place : Place) : Place := place.beside "-shm"

/-- The place of the journal of a database. -/
def journal (place : Place) : Place := place.beside "-journal"

end Place

namespace Disk

/-! ### Where a database is -/

/-- The name of the main file of the database of a directory. -/
def databaseFile : String := "labels.db"

/-- The path of the database of a directory. -/
def databasePath (dir : String) : String :=
  match dir.toList.getLast? with
  | none => databaseFile
  | some '/' => dir ++ databaseFile
  | some _ => dir ++ "/" ++ databaseFile

/-- The place that a name of a path to a database leads to. Two dots take back the name before them,
whether there is a directory or not, but no name leads into a file. -/
def descendNominally (d : Disk) (place : Place) (name : String) : Except Error Place :=
  let next := place.step name
  match d.get? place with
  | none | some .directory => .ok next
  | some _ => if place.length < next.length then .error .backend else .ok next

/-- The place of the database of a directory. -/
def databasePlace (d : Disk) (dir : String) : Except Error Place :=
  (names (databasePath dir)).foldlM d.descendNominally []

/-! ### What is in the files -/

/-- Whether there is something in the log at a place. -/
def hasLog (d : Disk) (place : Place) : Bool :=
  match d.get? place.log with
  | some (.log _ _) => true
  | _ => false

/-- Whether a log is gone that its index still tells of. -/
def isSpoilt (d : Disk) (place : Place) : Bool :=
  match d.get? place.index with
  | some (.index true) => !d.hasLog place
  | _ => false

/-- The database in the files at a place. The log counts before the main file; beside a main file
that holds no database, only a whole log counts. -/
def content? (d : Disk) (place : Place) : Option Database :=
  if d.isSpoilt place then none
  else match d.get? place, d.get? place.log with
    | some (.database _), some (.log db _) => some db
    | some (.text _), some (.log db true) => some db
    | some (.database db?), _ => db?
    | _, _ => none

/-- Whether a file is blank. One byte does not count. -/
def isBlank : DiskEntry → Bool
  | .text content => content.utf8ByteSize ≤ 1
  | _ => false

/-- Whether a journal is to be cleared away. One that begins with a null character was ended. -/
def isLeftOver : DiskEntry → Bool
  | .text content => content.toList.head?.any (· ≠ '\x00')
  | _ => false

/-- What a store can do with the database at a place that it has open. -/
def access (d : Disk) (place : Place) : Access where
  readable := (d.content? place).isSome
  joinable := !(d.get? place).any isBlank && !d.isDirectoryAt place.journal
    && !(d.get? place.journal).any isLeftOver
  writable := (d.content? place).isSome && !d.isDirectoryAt place.index

/-! ### Writing -/

/-- Whether the log at a place is whole, or would be if it were begun now. -/
def hasWholeLog (d : Disk) (place : Place) : Bool :=
  match d.get? place, d.get? place.log with
  | _, some (.log _ whole) => whole
  | some (.database none), _ => true
  | _, _ => false

/-- A file that holds no database and is not blank. -/
def ruined : DiskEntry := .text "\x00\x00"

/-- Writes to the log what makes the database at a place a given one. To write on after a spoilt log
ruins the main file. -/
def record (d : Disk) (place : Place) (db : Database) : Disk :=
  if d.isSpoilt place then d.setEntry place ruined
  else (d.setEntry place.log (.log db (d.hasWholeLog place))).setEntry place.index (.index true)

/-- Makes a database the one in the main file and empties the log. -/
def carryOver (d : Disk) (place : Place) (db : Database) : Disk :=
  ((d.setEntry place (.database db)).setEntry place.log (.text "")).setEntry place.index
    (.index false)

/-- Removes the log and its index, if there is an index. -/
def dropLog (d : Disk) (place : Place) : Disk :=
  if d.isDirectoryAt place.index then d else (d.erase place.log).erase place.index

/-! ### Opening and leaving -/

/-- Fails if there is a directory where a file has to be. -/
def refuseDirectory (place : Place) : FilesM Unit := do
  if (← get).isDirectoryAt place then throw .backend

/-- Clears away a journal, which nobody may do who is not alone. -/
def clearJournal (inUse : Bool) (place : Place) : FilesM Unit := do
  refuseDirectory place.journal
  if ((← get).get? place.journal).any isLeftOver then
    if inUse then throw .backend
    modify (·.erase place.journal)

/-- Removes a file with something in it. -/
def eraseFilled (d : Disk) (place : Place) : Disk :=
  match d.get? place with
  | none | some .directory | some (.text "") => d
  | some _ => d.erase place

/-- Begins a new database in a blank main file. Whatever lies beside it belongs to no database and
is removed, as far as that can be done. -/
def beginDatabase (inUse : Bool) (place : Place) : FilesM Unit := do
  if inUse then throw .backend
  modify (·.eraseFilled place.journal)
  refuseDirectory place.log
  modify (·.eraseFilled place.log)
  refuseDirectory place.journal
  modify fun d =>
    ((d.erase place.journal).setEntry place (.database none)).setEntry place.log (.text "")

/-- Opens a log beside a main file that holds no database. One that is not whole is of no use, and
goes away with the last one who tries. -/
def openForeign (inUse : Bool) (place : Place) : FilesM Unit := do
  match (← get).get? place.log with
  | some (.log _ true) => return ()
  | none | some (.text "") => throw .backend
  | some _ =>
    if !inUse then modify (·.dropLog place)
    throw .backend

/-- The number of bytes in the header of a log. -/
def logHeaderSize : Nat := 32

/-- Whether a log may be changing while it is read. Without an index that cannot be told, once there
is room in the log for a header. -/
def mayChange (d : Disk) (place : Place) : Bool :=
  d.isDirectoryAt place.index && match d.get? place.log with
    | some (.text content) => logHeaderSize ≤ content.utf8ByteSize
    | _ => false

/-- Opens the log beside a main file that is not blank. -/
def openLog (inUse : Bool) (place : Place) : FilesM Unit := do
  clearJournal inUse place
  refuseDirectory place.log
  let d ← get
  if inUse && d.isSpoilt place then throw .backend
  match d.get? place, d.get? place.log with
  | some (.database _), none => set (d.setEntry place.log (.text ""))
  | some (.database _), some _ => if d.mayChange place then throw .backend
  | _, _ => openForeign inUse place

/-- Opens the files at a place, which may be in use already. The directory must be there; a main
file is made if there is none. -/
def connect (inUse : Bool) (place : Place) : FilesM Unit := do
  let d ← get
  if !d.isDirectoryAt place.dropLast then throw .backend
  refuseDirectory place
  if (d.get? place).isNone then set (d.setEntry place (.text ""))
  if ((← get).get? place).any isBlank then beginDatabase inUse place else openLog inUse place
  modify fun d =>
    if d.isDirectoryAt place.index then d else d.setEntry place.index (.index (d.hasLog place))

/-- The database at a place. Its tables are made if there are none yet. -/
def makeTables (place : Place) : FilesM Database := do
  match (← get).content? place with
  | some db => return db
  | none =>
    refuseDirectory place.index
    modify (·.record place {})
    return {}

/-- The files after the last one has left who had them open and did not read. -/
def disconnect (d : Disk) (place : Place) : Disk :=
  match d.content? place with
  | some db => if d.isDirectoryAt place.index then d else (d.carryOver place db).dropLog place
  | none => if d.isSpoilt place then d else d.dropLog place

end Disk

end Clearance
