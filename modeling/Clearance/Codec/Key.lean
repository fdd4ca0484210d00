import Clearance.Codec.ByHash
import Clearance.Codec.ByNodeId
import Clearance.Codec.ByString

/-!
# Keys

A pattern is written as the key of its entry in one of the key formats. Writing answers whether
there is a key: a lookup among keys by number finds none for a node without a number, and then
nothing more is written.

## Main definitions

* `Clearance.KeyFormat.encodeNode`, `Clearance.KeyFormat.encodeTriple` — writing.
* `Clearance.KeyFormat.decodeNode`, `Clearance.KeyFormat.decodeTriple` — reading.
* `Clearance.KeyFormat.requireTable` — the check that a format has the table it needs.
-/

namespace Clearance.KeyFormat

variable {τ : Type} [NodeIds τ]

/-- Writes a node. -/
def encodeNode (format : KeyFormat) (n : Node) (use : KeyUse) : EncodeM τ Bool :=
  match format with
  | byString => do
    ByString.encodeNode n
    return true
  | byNodeId => ByNodeId.encodeNode n use
  | byHash algorithm => do
    ByHash.encodeNode algorithm n
    return true

/-- Writes nodes one after the other up to one that has no key. -/
def encodeNodes (format : KeyFormat) (use : KeyUse) : List Node → EncodeM τ Bool
  | [] => return true
  | n :: ns => do
    if ← format.encodeNode n use then format.encodeNodes use ns else return false

/-- Writes a triple. -/
def encodeTriple (format : KeyFormat) (t : Triple) (use : KeyUse) : EncodeM τ Bool :=
  match format with
  | byString => do
    ByString.encodeTriple t
    return true
  | format => format.encodeNodes use [t.s, t.p, t.o]

/-- Reads a node. -/
def decodeNode (format : KeyFormat) (table : τ) : DecodeM Node :=
  match format with
  | byString => ByString.decodeNode
  | byNodeId => ByNodeId.decodeNode table
  | byHash _ => throw (.unsupported .hashedKeys)

/-- Reads a triple. -/
def decodeTriple (format : KeyFormat) (table : τ) : DecodeM Triple :=
  match format with
  | byString => ByString.decodeTriple
  | format => do
    let s ← format.decodeNode table
    let p ← format.decodeNode table
    let o ← format.decodeNode table
    return ⟨s, p, o⟩

/-- Checks that there is a table of nodes if the format needs one. -/
def requireTable (format : KeyFormat) (present : Bool) : Except Error Unit :=
  match format with
  | byNodeId => if present then .ok () else .error (.invalid .noNodeTable)
  | _ => .ok ()

end Clearance.KeyFormat
