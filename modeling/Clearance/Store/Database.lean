import Clearance.Error
import Clearance.Pattern
import Std.Data.ExtTreeMap

/-!
# Databases

A database keeps the entries of a persistent store in four tables from keys to values, one for each
group of shapes that can share keys. Beside them it keeps settings, and the numbers of the nodes. A
*write set* is written as a whole: when it gives a number to a node that is taken already, nothing
of it is written.

## Main definitions

* `Clearance.Keyspace` — the tables.
* `Clearance.Database`, `Clearance.Access` — databases, and what can be done with them.
* `Clearance.WriteSet`, `Clearance.Database.write`, `Clearance.Access.write` — what is written at
  once, and writing it.
-/

namespace Clearance

/-- The tables of entries. -/
inductive Keyspace where
  /-- Patterns with a subject and a predicate. -/
  | triples
  /-- Patterns with a subject alone. -/
  | subjects
  /-- Patterns with a predicate alone. -/
  | predicates
  /-- The pattern that matches everything. -/
  | everything
deriving DecidableEq, Repr

namespace Keyspace

/-- All tables, in the order in which they are listed. -/
def all : List Keyspace := [triples, subjects, predicates, everything]

/-- The table for the patterns of a shape. -/
def ofShape : Shape → Keyspace
  | .exact => triples
  | .subjectPredicate => triples
  | .subject => subjects
  | .predicate => predicates
  | .everything => everything

/-- The name of a table. -/
def name : Keyspace → String
  | triples => "cf_spo"
  | subjects => "cf_s"
  | predicates => "cf_p"
  | everything => "cf_any"

end Keyspace

/-- The rows of a table of entries. -/
abbrev Rows := Std.ExtTreeMap Bytes Bytes

/-- A database. -/
structure Database where
  /-- The entries for patterns with a subject and a predicate. -/
  triples : Rows := ∅
  /-- The entries for patterns with a subject alone. -/
  subjects : Rows := ∅
  /-- The entries for patterns with a predicate alone. -/
  predicates : Rows := ∅
  /-- The entries for the pattern that matches everything. -/
  everything : Rows := ∅
  /-- The settings. -/
  settings : Std.ExtTreeMap String String := ∅
  /-- The terms of the nodes under their numbers, which are signed words. -/
  nodes : Std.ExtTreeMap Int String := ∅

/-- What a store can do with its database. -/
structure Access where
  /-- Whether the database can be read by a store that has read it before. -/
  readable : Bool := true
  /-- Whether a store can begin to read the database. -/
  joinable : Bool := true
  /-- Whether the database can be written. -/
  writable : Bool := true
deriving DecidableEq, Repr

/-- An entry to be written. -/
structure Put where
  /-- The table. -/
  space : Keyspace
  /-- The key. -/
  key : Bytes
  /-- The value. -/
  value : Bytes
deriving DecidableEq, Repr

/-- What is written at once. -/
structure WriteSet where
  /-- The entries, in the order in which they are written. -/
  puts : List Put := []
  /-- The numbers that are given to nodes. -/
  nodes : List (Nat × String) := []
  /-- The settings. -/
  settings : List (String × String) := []
deriving DecidableEq, Repr

/-- Whether nothing is written. -/
def WriteSet.isEmpty (w : WriteSet) : Bool :=
  w.puts.isEmpty && w.nodes.isEmpty && w.settings.isEmpty

namespace Database

/-- The rows of a table. -/
def rows (db : Database) : Keyspace → Rows
  | .triples => db.triples
  | .subjects => db.subjects
  | .predicates => db.predicates
  | .everything => db.everything

/-- A database with other rows in a table. -/
def setRows (db : Database) (space : Keyspace) (rows : Rows) : Database :=
  match space with
  | .triples => { db with triples := rows }
  | .subjects => { db with subjects := rows }
  | .predicates => { db with predicates := rows }
  | .everything => { db with everything := rows }

/-- The value of an entry. -/
def find? (db : Database) (space : Keyspace) (key : Bytes) : Option Bytes := (db.rows space)[key]?

/-- The rows of a table in the order of their keys. -/
def scan (db : Database) (space : Keyspace) : List (Bytes × Bytes) := (db.rows space).toList

/-- The number of entries in a table. -/
def count (db : Database) (space : Keyspace) : Nat := (db.rows space).size

/-- Whether no table has entries. -/
def isEmpty (db : Database) : Bool := Keyspace.all.all fun space => db.count space = 0

/-- The value of a setting. -/
def setting? (db : Database) (key : String) : Option String := db.settings[key]?

/-- Writes a setting. -/
def setSetting (db : Database) (key value : String) : Database :=
  { db with settings := db.settings.insert key value }

/-- The value that an entry gets when it is written over another. -/
def combine (mode : WriteMode) (present? : Option Bytes) (value : Bytes) : Bytes :=
  match mode, present? with
  | .merge, some present => present ++ value
  | _, _ => value

/-- Writes an entry. -/
def put (db : Database) (mode : WriteMode) (p : Put) : Database :=
  let value := combine mode (db.find? p.space p.key) p.value
  db.setRows p.space ((db.rows p.space).insert p.key value)

/-- The number of values of a word. -/
def wordCount : Nat := 1 <<< 64

/-- A number as a signed word. -/
def signedWord (id : Nat) : Int := Int.bmod id wordCount

/-- A signed word as a number. -/
def unsignedWord (id : Int) : Nat := (id % wordCount).toNat

/-- Gives a number to a node, unless it is taken. -/
def addNode (db : Database) (id : Nat) (term : String) : Except Error Database :=
  if db.nodes.contains (signedWord id) then .error .backend
  else .ok { db with nodes := db.nodes.insert (signedWord id) term }

/-- The numbers of the nodes in ascending order, with the terms of the nodes. -/
def nodeRows (db : Database) : List (Nat × String) :=
  db.nodes.toList.map fun (id, term) => (unsignedWord id, term)

/-- Writes a write set. -/
def write (db : Database) (mode : WriteMode) (w : WriteSet) : Except Error Database := do
  let db := w.puts.foldl (fun db p => db.put mode p) db
  let db ← w.nodes.foldlM (fun db (id, term) => db.addNode id term) db
  return w.settings.foldl (fun db (key, value) => db.setSetting key value) db

end Database

/-- Writes a write set to a database, if it can be written. To write nothing is always possible. -/
def Access.write (a : Access) (db : Database) (mode : WriteMode) (w : WriteSet) :
    Except Error Database :=
  if a.writable || w.isEmpty then db.write mode w else .error .backend

end Clearance
