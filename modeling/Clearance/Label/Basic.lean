import Clearance.Bytes.Utf8

/-!
# Labels

A label is a text kept as the bytes in which it was given, together with the charset of these bytes.
Two labels are equal when their bytes and charsets are; texts are never compared. Labels are stored
as UTF-8, whatever their charset.

## Main definitions

* `Clearance.Label` — labels.
* `Clearance.Label.chars` — the text of a label.
* `Clearance.Label.utf8Bytes` — the bytes under which a label is stored.
-/

namespace Clearance

/-- The charset of the bytes of a label. -/
inductive Charset where
  /-- UTF-8. -/
  | utf8
  /-- One byte for each of the first 256 characters. -/
  | latin1
deriving DecidableEq, Repr

/-- A label: bytes in a charset. -/
structure Label where
  /-- The bytes. -/
  bytes : Bytes
  /-- The charset. -/
  charset : Charset := .utf8
deriving DecidableEq, Repr

namespace Label

/-- The label with a given text, in UTF-8. -/
def ofText (s : String) : Label := ⟨Utf8.encode s.toList, .utf8⟩

/-- The label that denies everyone. -/
def deny : Label := ofText "!"

/-- The label that allows everyone. -/
def allow : Label := ofText "*"

/-- The character with the number of a byte. -/
def latin1Char (b : UInt8) : Char := Char.ofNat b.toNat

/-- The text of a label. Bytes that are not UTF-8 give replacement characters. -/
def chars (l : Label) : List Char :=
  match l.charset with
  | .utf8 => Utf8.decodeLossy l.bytes
  | .latin1 => l.bytes.map latin1Char

/-- The bytes under which a label is stored. -/
def utf8Bytes (l : Label) : Bytes :=
  match l.charset with
  | .utf8 => l.bytes
  | .latin1 => Utf8.encode l.chars

/-- The label as it comes back from a store. -/
def asUtf8 (l : Label) : Label := ⟨l.utf8Bytes, .utf8⟩

/-- The place of a charset among the charsets. -/
def charsetRank : Charset → Nat
  | .utf8 => 0
  | .latin1 => 1

/-- The order of labels: by bytes, then charset. -/
instance : Ord Label where
  compare := compareLex (compareOn Label.bytes) (compareOn fun l => charsetRank l.charset)

instance : ToString Label where
  toString l := String.ofList l.chars

end Label

end Clearance
