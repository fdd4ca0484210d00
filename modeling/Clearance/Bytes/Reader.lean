import Clearance.Error

/-!
# Reading stored bytes

A reader stands at a place in a byte string. Taking bytes moves it on; asking for more bytes than
are left is an error and does not move it.

## Main definitions

* `Clearance.ByteReader` — the place of a reader.
* `Clearance.DecodeM` — computations that read.
* `Clearance.ByteReader.take`, `Clearance.ByteReader.number`, `Clearance.ByteReader.signed`,
  `Clearance.ByteReader.kind` — what can be read.
-/

namespace Clearance

/-- A place in a byte string. -/
structure ByteReader where
  /-- The bytes from this place on. -/
  rest : Bytes
  /-- The number of bytes before this place. -/
  offset : Nat := 0
deriving DecidableEq, Repr

/-- Computations that read bytes and may fail. After a failure the reader stands where it stood when
the failure was found. -/
abbrev DecodeM := ExceptT Error (StateM ByteReader)

namespace ByteReader

/-- Takes a number of bytes. -/
def take (n : Nat) : DecodeM Bytes := do
  let r ← get
  if n ≤ r.rest.length then
    set ({ rest := r.rest.drop n, offset := r.offset + n } : ByteReader)
    return r.rest.take n
  else throw (.corrupt (.tooShort n r.offset r.rest.length))

/-- Takes a natural number of a given width. -/
def number (width : Nat) : DecodeM Nat := return leValue (← take width)

/-- The widths of signed numbers. -/
def signedWidths : List Nat := [1, 2, 4, 8]

/-- Takes a signed number of a given width. -/
def signed (width : Nat) : DecodeM Int := do
  let bs ← take width
  if signedWidths.contains width then return leSigned bs
  else throw (.corrupt (.integerWidth width))

/-- The kind of nodes with a given tag. -/
def kindOf (tag : Nat) : Except Corruption NodeKind :=
  match NodeKind.ofTag? tag with
  | some kind => .ok kind
  | none => .error (.unknownKind tag)

/-- Takes the tag of a kind of nodes. -/
def kind : DecodeM NodeKind := do
  let tag ← number 1
  liftM ((kindOf tag).mapError Error.corrupt)

end ByteReader

/-- What a computation reads from the front of a byte string. -/
def DecodeM.readFrom {α : Type} (x : DecodeM α) (bs : Bytes) : Except Error α :=
  (x.run.run { rest := bs }).1

end Clearance
