import Clearance.Bytes.Reader
import Clearance.Codec.Basic
import Clearance.Node.Reader

/-!
# Keys that hold the texts of nodes

The *header* of a node is the tag of its kind in one byte and the length of its body in four. The
body is the IRI, the label of a blank node, or the term of a literal, in UTF-8; the wildcard has an
empty one. A node is its header and its body; a triple is the headers of its three nodes and then
their bodies.

## Main definitions

* `Clearance.ByString.encodeNode`, `Clearance.ByString.encodeTriple` — writing.
* `Clearance.ByString.decodeNode`, `Clearance.ByString.decodeTriple` — reading.
-/

namespace Clearance.ByString

variable {τ : Type}

/-- The body of a node as text. -/
def bodyChars : Node → List Char
  | .uri iri => iri.toList
  | .literal l => l.term
  | .blank label => label.toList
  | .any => []

/-- The body of a node. -/
def body (n : Node) : Bytes := Utf8.encode (bodyChars n)

/-- Writes the header of a node whose body has a given length. -/
def putHeader (kind : NodeKind) (length : Nat) : EncodeM τ Unit := do
  if wordSize ≤ length then throw (.invalid (.nodeTooLong length))
  EncodeM.put [UInt8.ofNat kind.tag]
  EncodeM.put (leBytes 4 length)

/-- Writes a node. -/
def encodeNode (n : Node) : EncodeM τ Unit := do
  putHeader n.kind (body n).length
  EncodeM.put (body n)

/-- Writes a triple. -/
def encodeTriple (t : Triple) : EncodeM τ Unit := do
  [t.s, t.p, t.o].forM fun n => putHeader n.kind (body n).length
  EncodeM.putAll ([t.s, t.p, t.o].map body)

/-- Reads a header. -/
def header : DecodeM (NodeKind × Nat) := return (← ByteReader.kind, ← ByteReader.number 4)

/-- The node of a given kind with a given body. The body of a literal may be the term of any
node. -/
def nodeOfBody (kind : NodeKind) (body : Bytes) : Except Corruption Node :=
  match Utf8.decode body with
  | .error fault => .error (.bodyNotUtf8 fault)
  | .ok text => match kind with
    | .uri => .ok (.uri (String.ofList text))
    | .literal => Node.ofTerm text
    | .blank => .ok (.blank (String.ofList text))
    | .any => .ok .any

/-- Reads a body. -/
def takeBody (header : NodeKind × Nat) : DecodeM Node := do
  let body ← ByteReader.take header.2
  liftM ((nodeOfBody header.1 body).mapError Error.corrupt)

/-- Reads a node. -/
def decodeNode : DecodeM Node := do takeBody (← header)

/-- Reads a triple. -/
def decodeTriple : DecodeM Triple := do
  let s ← header
  let p ← header
  let o ← header
  return ⟨← takeBody s, ← takeBody p, ← takeBody o⟩

end Clearance.ByString
