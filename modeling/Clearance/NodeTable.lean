import Clearance.Error
import Std.Data.ExtTreeMap

/-!
# Tables of nodes

Keys can hold numbers in place of nodes. A *node table* gives numbers to nodes: it looks up the
number of a node and the node with a number, and it may allocate numbers for new nodes. The table
that stores use gives out the numbers 1, 2, 3, …; it can be cut back to the numbers below a mark, so
that what was allocated for writes that failed is forgotten, and it can be filled again from saved
entries.

## Main definitions

* `Clearance.NodeIds` — the interface of node tables.
* `Clearance.NodeTable` — the table with consecutive numbers.
-/

namespace Clearance

/-- Types of tables that give numbers to nodes. -/
class NodeIds (τ : Type) where
  /-- The number of a node, which is allocated if it has none. -/
  allocate : τ → Node → Except Error (Nat × τ)
  /-- The number of a node that has one. -/
  idFor? : τ → Node → Option Nat
  /-- The node with a number. -/
  nodeFor? : τ → Nat → Option Node

/-- A table that gives the numbers 1, 2, 3, … to nodes. -/
structure NodeTable where
  /-- The numbers of the nodes. -/
  ids : Std.ExtTreeMap Node Nat
  /-- The nodes in the order of their numbers. -/
  nodes : Array Node

namespace NodeTable

/-- The table without nodes. -/
def empty : NodeTable := ⟨∅, #[]⟩

/-- The number of nodes, which is also the last number given out. -/
def size (t : NodeTable) : Nat := t.nodes.size

/-- The number of a node that has one. -/
def idFor? (t : NodeTable) (n : Node) : Option Nat := t.ids[n]?

/-- The node with a number. -/
def nodeFor? (t : NodeTable) (id : Nat) : Option Node := if id = 0 then none else t.nodes[id - 1]?

/-- Gives the next number to a node. -/
def push (t : NodeTable) (n : Node) : NodeTable :=
  ⟨t.ids.insert n (t.size + 1), t.nodes.push n⟩

/-- The number of a node, which is the next one if it has none. -/
def allocate (t : NodeTable) (n : Node) : Nat × NodeTable :=
  match t.idFor? n with
  | some id => (id, t)
  | none => (t.size + 1, t.push n)

/-- The numbers above a mark, with their nodes, in ascending order. -/
def allocatedSince (t : NodeTable) (mark : Nat) : List (Nat × Node) :=
  ((t.nodes.toList.drop mark).zipIdx (min mark t.size + 1)).map fun (n, id) => (id, n)

/-- Forgets the numbers above a mark. -/
def truncate (t : NodeTable) (mark : Nat) : NodeTable :=
  ⟨(t.nodes.toList.drop mark).foldl (fun ids n => ids.erase n) t.ids, t.nodes.take mark⟩

/-- Adds saved entries, whose numbers must go on where those of the table end. The entries before
one that does not fit stay. -/
def load (t : NodeTable) : List (Nat × Node) → Except Corruption Unit × NodeTable
  | [] => (.ok (), t)
  | (id, n) :: entries =>
    if id = t.size + 1 then (t.push n).load entries
    else (.error (.tableGap (t.size + 1) id), t)

instance : NodeIds NodeTable where
  allocate t n := .ok (t.allocate n)
  idFor? := idFor?
  nodeFor? := nodeFor?

end NodeTable

end Clearance
