import Clearance.Bytes.Reader
import Clearance.Codec.Basic

/-!
# Lists of labels as bytes

A *record* holds a list of labels: their number in four bytes, the length of each label in four
bytes, and the labels, all as UTF-8. Numbers are little-endian. A stored value is a sequence of
records; its labels are those of all records, each at its first place only.

## Main definitions

* `Clearance.LabelList.fields`, `Clearance.LabelList.encode` — writing a record.
* `Clearance.LabelList.decodeRecord`, `Clearance.LabelList.decode` — reading a record and a value.
-/

namespace Clearance.LabelList

/-- A length in four bytes, if it fits. -/
def lengthField (length : Nat) : Except Error Bytes :=
  if length < wordSize then .ok (leBytes 4 length) else .error (.invalid (.listTooLong length))

/-- Writes a length. -/
def putLength {τ : Type} (length : Nat) : EncodeM τ Unit := do
  EncodeM.put (← liftM (lengthField length))

/-- Writes the record of a list of labels. -/
def encode {τ : Type} (labels : List Label) : EncodeM τ Unit := do
  let bodies := labels.map Label.utf8Bytes
  putLength bodies.length
  bodies.forM fun body => putLength body.length
  EncodeM.putAll bodies

/-- Reads one record. -/
def decodeRecord : DecodeM (List Label) := do
  let count ← ByteReader.number 4
  let left := (← get).rest.length
  if left < 4 * count then throw (.corrupt (.labelCount count))
  let lengths ← (List.replicate count 4).mapM ByteReader.number
  lengths.mapM fun length => return { bytes := ← ByteReader.take length }

/-- Adds to a list the labels of another that are not in it. -/
def union (known : List Label) : List Label → List Label
  | [] => known
  | l :: ls => union (if known.contains l then known else known ++ [l]) ls

/-- Reads records to the end of the bytes, at most `fuel` of them, and adds their labels to a
list. -/
def decodeRecords : (fuel : Nat) → (known : List Label) → DecodeM (List Label)
  | 0, known => return known
  | fuel + 1, known => do
    if (← get).rest.isEmpty then return known
    decodeRecords fuel (union known (← decodeRecord))

/-- The labels of a stored value. -/
def decode (bs : Bytes) : Except Error (List Label) :=
  DecodeM.readFrom (decodeRecords bs.length []) bs

end Clearance.LabelList
