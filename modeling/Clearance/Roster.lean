import Clearance.AttributeSet
import Clearance.Hierarchy
import Clearance.Json.Reader

/-!
# Rosters

A roster knows users with their attributes, and hierarchies of attributes. It is declared by a JSON
record: the field `users` lists texts of attributes for each user, whose sets are merged in their
order, and the field `hierarchies` lists the texts of hierarchies.

## Main definitions

* `Clearance.Roster` — rosters.
* `Clearance.Roster.declare`, `Clearance.Roster.parse` — reading a declaration.
* `Clearance.Source`, `Clearance.Roster.source` — what can be asked of a roster.
-/

namespace Clearance

/-- Where attributes and hierarchies come from. -/
structure Source where
  /-- The attributes of a user who is known. -/
  attributes? : String → Option AttributeSet
  /-- The hierarchy of an attribute that has one. -/
  hierarchy? : Attribute → Option Hierarchy
  /-- The users who are known, in ascending order. -/
  users : List String

/-- Known users and hierarchies. -/
structure Roster where
  /-- The attributes of users. -/
  users : Std.ExtTreeMap String AttributeSet := ∅
  /-- The hierarchies of attributes. -/
  hierarchies : Std.ExtTreeMap Attribute Hierarchy := ∅

namespace Roster

/-- What can be asked of a roster. -/
def source (r : Roster) : Source where
  attributes? user := r.users[user]?
  hierarchy? a := r.hierarchies[a]?
  users := r.users.keys

/-- Gives attributes to a user, in place of those that the user had. -/
def put (r : Roster) (user : String) (attributes : AttributeSet) : Roster :=
  { r with users := r.users.insert user attributes }

/-- Adds a hierarchy, in place of the one that its attribute had. -/
def addHierarchy (r : Roster) (h : Hierarchy) : Roster :=
  { r with hierarchies := r.hierarchies.insert h.attr h }

/-- The set that a list of texts declares. -/
def attributesOf (texts : List String) : Except TextFault AttributeSet :=
  texts.foldlM (fun s text => return s.merge (← AttributeSet.parse text.toList)) AttributeSet.empty

/-- Adds a declared user. -/
def declareUser (r : Roster) (user : String × List String) : Except Error Roster := do
  let attributes ← (attributesOf user.2).mapError Error.malformed
  return r.put user.1 attributes

/-- Adds a declared hierarchy. -/
def declareHierarchy (r : Roster) (text : String) : Except Error Roster := do
  return r.addHierarchy (← Hierarchy.parse text.toList)

/-- The roster with declared users and hierarchies. Users are read in ascending order, and of two
declarations of a user the later one counts. -/
def declare (users : List (String × List String)) (hierarchies : List String) :
    Except Error Roster := do
  let users := users.foldl (fun m u => m.insert u.1 u.2) (∅ : Std.ExtTreeMap String (List String))
  let r ← users.toList.foldlM declareUser {}
  hierarchies.foldlM declareHierarchy r

/-- The users and hierarchies that a record declares. -/
def declared? (j : Json) : Option (List (String × List String) × List String) := do
  let fields ← j.record? ["users", "hierarchies"]
  let users ← Json.fieldOr fields "users" [] fun j => do
    (← j.members?).mapM fun (user, j) => return (user, ← j.texts?)
  let hierarchies ← Json.fieldOr fields "hierarchies" [] Json.texts?
  return (users, hierarchies)

/-- The roster that a text declares. -/
def parse (text : String) : Except Error Roster :=
  match (Json.parse text.toList).bind declared? with
  | none => .error .config
  | some (users, hierarchies) => declare users hierarchies

end Roster

end Clearance
