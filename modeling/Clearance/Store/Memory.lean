import Clearance.Node.Canonical
import Clearance.Pattern
import Std.Data.ExtTreeMap

/-!
# Stores in memory

A store in memory maps canonical patterns to lists of labels. A batch of changes is applied one
change after the other; a change that is refused ends the work, and the changes before it stay.

## Main definitions

* `Clearance.Change` — changes.
* `Clearance.MemoryStore`, `Clearance.MemoryStore.lookup`, `Clearance.MemoryStore.apply`.
-/

namespace Clearance

/-- A change of what is recorded. -/
inductive Change where
  /-- Labels are recorded for a pattern. -/
  | add (pattern : Triple) (labels : List Label)
  /-- What is recorded for a pattern is removed. -/
  | remove (pattern : Triple)
deriving DecidableEq, Repr

/-- A store in memory. -/
structure MemoryStore where
  /-- The labels by canonical pattern. -/
  entries : Std.ExtTreeMap Triple (List Label) := ∅
  /-- Whether a pattern with a wildcard has ever been recorded. -/
  patternsLoaded : Bool := false

namespace MemoryStore

/-- The labels of a concrete triple. -/
def lookup (s : MemoryStore) (t : Triple) : Except Error (List Label) :=
  Id.run (resolve t.canonical s.patternsLoaded fun _ key => return s.entries.getD key []).run

/-- The store after a change. -/
def change (s : MemoryStore) : Change → Except Error MemoryStore
  | .add pattern labels => do
    let shape ← Shape.ofPattern pattern
    return { entries := s.entries.insert pattern.canonical labels
             patternsLoaded := s.patternsLoaded || shape.hasWildcard }
  | .remove pattern => .ok { s with entries := s.entries.erase pattern.canonical }

/-- Applies changes up to one that is refused. -/
def apply (s : MemoryStore) : List Change → Except Error Unit × MemoryStore
  | [] => (.ok (), s)
  | c :: cs => match s.change c with
    | .ok s' => s'.apply cs
    | .error e => (.error e, s)

/-- The patterns in ascending order, with their labels. -/
def graph (s : MemoryStore) : List (Triple × List Label) := s.entries.toList

/-- What there is to know of a store. -/
def properties (s : MemoryStore) : List (String × String) :=
  [("kind", "memory"), ("entries", toString s.entries.size),
    ("patterns_loaded", toString s.patternsLoaded)]

end MemoryStore

end Clearance
