import Clearance.Bytes.Reader
import Clearance.Codec.Basic

/-!
# Keys that hold the numbers of nodes

A node is written as one *top byte* and its number. The high half of the top byte is the tag of the
kind of the node, the low half tells the width of the number: 1, 2, 4 or 8 bytes, the least in which
it is not negative as a signed number. Numbers are little-endian. The wildcard has no number.

## Main definitions

* `Clearance.ByNodeId.encodeNode`, `Clearance.ByNodeId.decodeNode` — writing and reading.
-/

namespace Clearance.ByNodeId

variable {τ : Type} [NodeIds τ]

/-- The size in which a number is written; its width is two to the power of the size. -/
def sizeOf (id : Nat) : Nat :=
  if id < 1 <<< 7 then 0 else if id < 1 <<< 15 then 1 else if id < 1 <<< 31 then 2 else 3

/-- The top byte of a kind of nodes and a size. -/
def topByte (kind : NodeKind) (size : Nat) : UInt8 := UInt8.ofNat (16 * kind.tag + size)

/-- The number of a node, if it has or may get one. -/
def numberOf? (n : Node) : KeyUse → EncodeM τ (Option Nat)
  | .lookup => return NodeIds.idFor? (← get).table n
  | .store => do
    let sheet ← get
    match NodeIds.allocate sheet.table n with
    | .ok (id, table) =>
      set { sheet with table }
      return some id
    | .error e => throw e

/-- Writes a node, unless a lookup finds no number for it. -/
def encodeNode (n : Node) (use : KeyUse) : EncodeM τ Bool := do
  if n = .any then
    EncodeM.put [topByte .any 0]
    return true
  match ← numberOf? n use with
  | none => return false
  | some id =>
    if 1 <<< 63 ≤ id then throw (.invalid (.idOutOfRange id))
    EncodeM.put [topByte n.kind (sizeOf id)]
    EncodeM.put (leBytes (1 <<< sizeOf id) id)
    return true

/-- The node with a number that a key states to be of a given kind. -/
def nodeOfId (table : τ) (kind : NodeKind) (id : Int) : Except Corruption Node :=
  match if id < 0 then none else NodeIds.nodeFor? table id.toNat with
  | none => .error (.unknownId id)
  | some n => if n.kind = kind then .ok n else .error (.kindMismatch id n.kind kind)

/-- Reads a node. -/
def decodeNode (table : τ) : DecodeM Node := do
  let top ← ByteReader.number 1
  let kind ← liftM ((ByteReader.kindOf (top / 16)).mapError Error.corrupt)
  if kind = .any then return .any
  let size := top % 16
  if 3 < size then throw (.corrupt (.unknownIdSize size))
  let id ← ByteReader.signed (1 <<< size)
  liftM ((nodeOfId table kind id).mapError Error.corrupt)

end Clearance.ByNodeId
