import Clearance.Store.Database

/-!
# Disks

A disk is a tree of directories, with text files and databases in them. Paths are relative to the
root of the tree, and their names stand between slashes; a dot stands for the directory that has
been reached, and two dots for the one above it. A *place* is the list of the names of directories
from the root to a file or directory.

## Main definitions

* `Clearance.Disk`, `Clearance.Place` — disks and places.
* `Clearance.DiskM` — computations on a disk.
* `Clearance.Disk.locate`, `Clearance.Disk.canonical` — where a path leads.
* `Clearance.Disk.readText`, `Clearance.Disk.writeText`, `Clearance.Disk.makeDirs`.
-/

namespace Clearance

/-- The names of directories that lead from the root to a file or directory. -/
abbrev Place := List String

/-- What a place below the root holds. -/
inductive DiskEntry where
  /-- A directory. -/
  | directory
  /-- A file with text. -/
  | text (content : String)
  /-- A file with a database, in which there may be no tables yet. -/
  | database (db? : Option Database)
  /-- A file with what was written to a database lately: the database with it, and whether all of
  the database is in it. -/
  | log (db : Database) (whole : Bool)
  /-- A file that tells those who have a database open whether anything is in its log. -/
  | index (begun : Bool)

/-- A disk. -/
structure Disk where
  /-- The entries below the root. -/
  entries : Std.ExtTreeMap Place DiskEntry := ∅

/-- Computations on a disk that may fail. What has been done before stays done. -/
abbrev DiskM := ExceptT IoFault (StateM Disk)

namespace Place

/-- The path of a place. -/
def path (place : Place) : String := "/".intercalate place

/-- The place that a name stands for, seen from a place. -/
def step (place : Place) (name : String) : Place :=
  if name = "" || name = "." then place
  else if name = ".." then place.dropLast
  else place ++ [name]

end Place

namespace Disk

/-- The entry at a place. -/
def get? (d : Disk) : Place → Option DiskEntry
  | [] => some .directory
  | place => d.entries[place]?

/-- Puts an entry at a place. -/
def setEntry (d : Disk) (place : Place) (e : DiskEntry) : Disk :=
  { d with entries := d.entries.insert place e }

/-- Removes the entry at a place. -/
def erase (d : Disk) (place : Place) : Disk := { d with entries := d.entries.erase place }

/-- Whether there is a directory at a place. -/
def isDirectoryAt (d : Disk) (place : Place) : Bool :=
  match d.get? place with
  | some .directory => true
  | _ => false

/-- Splits a text at its slashes. -/
def splitPath : List Char → List (List Char)
  | [] => [[]]
  | '/' :: cs => [] :: splitPath cs
  | c :: cs => match splitPath cs with
    | [] => [[c]]
    | name :: names => (c :: name) :: names

/-- The names that a path consists of. -/
def names (path : String) : List String := (splitPath path.toList).map String.ofList

/-- The place that a name leads to from a place. -/
def descend (d : Disk) (place : Place) (name : String) : Except IoFault Place :=
  match d.get? place with
  | none => .error .notFound
  | some .directory => .ok (place.step name)
  | some _ => .error .notADirectory

/-- The place that names lead to from the root. Only the last name may be missing. -/
def walk (d : Disk) (names : List String) : Except IoFault Place := names.foldlM d.descend []

/-- The place that a path leads to. Only the last name may be missing. -/
def locate (d : Disk) (path : String) : Except IoFault Place :=
  if path.isEmpty then .error .notFound else d.walk (names path)

/-- The place that a path leads to, where there is something. -/
def canonical (d : Disk) (path : String) : Except IoFault Place := do
  let place ← d.locate path
  if (d.get? place).isSome then return place else throw .notFound

/-- Reads a file. -/
def readText (d : Disk) (path : String) : Except IoFault String := do
  match d.get? (← d.locate path) with
  | some (.text content) => return content
  | _ => throw .notFound

/-- Names without the empty ones at their end, which the slashes at the end of a path give. -/
def withoutSlashes (names : List String) : List String := Text.dropWhileEnd (· = "") names

/-- Writes a file. -/
def writeText (path content : String) : DiskM Unit := do
  let d ← get
  let place ← liftM (d.walk (withoutSlashes (names path)))
  if (names path).getLast? = some "" || d.isDirectoryAt place then throw .isADirectory
  set (d.setEntry place (.text content))

/-! ### Directories -/

/-- Whether names lead to a directory. -/
def isDirectory (d : Disk) (names : List String) : Bool :=
  match d.walk names with
  | .ok place => d.isDirectoryAt place
  | .error _ => false

/-- Makes the directory that names lead to, in a directory that is there. Slashes at the end do not
count. -/
def makeDir (names : List String) : DiskM Unit := do
  let d ← get
  let place ← liftM (d.walk (withoutSlashes names))
  if (d.get? place).isSome then throw .alreadyExists
  set (d.setEntry place .directory)

/-- Makes the directory that names lead to, unless it is there. -/
def ensureDir (names : List String) : DiskM Unit := do
  if (← get).isDirectory names then return () else makeDir names

/-- Makes a directory and, where they are missing, the ones around it, from the inmost to the
outmost. What has been made stays also if the rest fails. -/
def ensureNested : List (List String) → DiskM Unit
  | [] => return ()
  | names :: around =>
    tryCatch (ensureDir names) fun
      | .notFound => do
        ensureNested around
        ensureDir names
      | fault => throw fault

/-- The names of the directories around the one that names lead to, the inmost first. -/
def around (names : List String) : List (List String) :=
  let names := names.filter fun name => name ≠ "" && name ≠ "."
  (List.range names.length).reverse.map names.take

/-- Makes the directory that a path leads to, and the ones around it. -/
def makeDirs (path : String) : DiskM Unit :=
  if path.isEmpty then return () else ensureNested (names path :: around (names path))

end Disk

end Clearance
