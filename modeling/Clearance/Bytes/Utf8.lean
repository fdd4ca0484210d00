import Clearance.Bytes.Basic

/-!
# UTF-8

Characters are written in one to four bytes. A byte string is read in one pass into *pieces*: each
piece is a character, a longest initial part of a character that some byte cannot continue, or a
character that the end of the string cuts off. A string is well-formed when all its pieces are
characters; a reader that must go on puts the replacement character for each other piece.

## Main definitions

* `Clearance.Utf8.encode` — the bytes of a text.
* `Clearance.Utf8.pieces` — the pieces of a byte string.
* `Clearance.Utf8.decode` — the text of a well-formed byte string, or its first fault.
* `Clearance.Utf8.decodeLossy` — the text with replacement characters.
-/

namespace Clearance.Utf8

/-! ### Writing -/

/-- The continuation byte that carries the six low bits of `n`. -/
def continuation (n : Nat) : UInt8 := UInt8.ofNat (0x80 + n % 0x40)

/-- The bytes of one character. -/
def encodeChar (c : Char) : Bytes :=
  let n := c.toNat
  if n < 0x80 then [UInt8.ofNat n]
  else if n < 0x800 then [UInt8.ofNat (0xC0 + n / 0x40), continuation n]
  else if n < 0x10000 then
    [UInt8.ofNat (0xE0 + n / 0x1000), continuation (n / 0x40), continuation n]
  else
    [UInt8.ofNat (0xF0 + n / 0x40000), continuation (n / 0x1000), continuation (n / 0x40),
      continuation n]

/-- The bytes of a text. -/
def encode (s : List Char) : Bytes := s.flatMap encodeChar

/-! ### Reading -/

/-- A character of which some bytes have been read. -/
structure Pending where
  /-- How many bytes are still to come. -/
  need : Nat
  /-- The bits read so far. -/
  value : Nat
  /-- The least value of the next byte. -/
  lo : Nat
  /-- The greatest value of the next byte. -/
  hi : Nat
  /-- How many bytes have been read. -/
  seen : Nat

/-- What one more byte makes of a character. -/
inductive Step where
  /-- The character is complete. -/
  | done (c : Char)
  /-- More bytes are to come. -/
  | more (p : Pending)
  /-- The byte has no place here. -/
  | refused

/-- A byte read as the first of a character. The bounds on the second byte keep out characters
written longer than necessary, surrogates and values beyond the last code point. -/
def start (b : UInt8) : Step :=
  let n := b.toNat
  if n < 0x80 then .done (Char.ofNat n)
  else if n < 0xC2 then .refused
  else if n < 0xE0 then .more ⟨1, n - 0xC0, 0x80, 0xBF, 1⟩
  else if n = 0xE0 then .more ⟨2, 0, 0xA0, 0xBF, 1⟩
  else if n = 0xED then .more ⟨2, 0xD, 0x80, 0x9F, 1⟩
  else if n < 0xF0 then .more ⟨2, n - 0xE0, 0x80, 0xBF, 1⟩
  else if n = 0xF0 then .more ⟨3, 0, 0x90, 0xBF, 1⟩
  else if n < 0xF4 then .more ⟨3, n - 0xF0, 0x80, 0xBF, 1⟩
  else if n = 0xF4 then .more ⟨3, 4, 0x80, 0x8F, 1⟩
  else .refused

/-- A byte read as the next one of a character. -/
def Pending.step (p : Pending) (b : UInt8) : Step :=
  let n := b.toNat
  if p.lo ≤ n ∧ n ≤ p.hi then
    let value := p.value * 0x40 + (n - 0x80)
    if p.need ≤ 1 then .done (Char.ofNat value)
    else .more ⟨p.need - 1, value, 0x80, 0xBF, p.seen + 1⟩
  else .refused

/-- A part of a byte string as UTF-8 reads it. -/
inductive Piece where
  /-- A character. -/
  | char (c : Char)
  /-- The beginning of a character, so many bytes long, that the next byte does not continue. -/
  | illFormed (width : Nat)
  /-- The beginning of a character, so many bytes long, at the end of the string. -/
  | truncated (width : Nat)

/-- The pieces of a byte string, given the character that is being read. -/
def pieces : Option Pending → Bytes → List Piece
  | none, [] => []
  | some p, [] => [.truncated p.seen]
  | none, b :: bs => match start b with
    | .done c => .char c :: pieces none bs
    | .more p => pieces (some p) bs
    | .refused => .illFormed 1 :: pieces none bs
  | some p, b :: bs => match p.step b with
    | .done c => .char c :: pieces none bs
    | .more q => pieces (some q) bs
    | .refused => .illFormed p.seen :: match start b with
      | .done c => .char c :: pieces none bs
      | .more q => pieces (some q) bs
      | .refused => .illFormed 1 :: pieces none bs

/-- Why a byte string is not well-formed. -/
inductive Fault where
  /-- At `index` stand `width` bytes that begin no character that goes on as the string does. -/
  | invalid (width index : Nat)
  /-- The string ends inside the character that begins at `index`. -/
  | incomplete (index : Nat)
deriving DecidableEq, Repr

/-- The text of a list of pieces that begins at `index`, or its first fault. -/
def charsOfPieces : (index : Nat) → List Piece → Except Fault (List Char)
  | _, [] => .ok []
  | index, .char c :: ps =>
    (charsOfPieces (index + (encodeChar c).length) ps).map (c :: ·)
  | index, .illFormed width :: _ => .error (.invalid width index)
  | index, .truncated _ :: _ => .error (.incomplete index)

/-- The text of a well-formed byte string, or its first fault. -/
def decode (bs : Bytes) : Except Fault (List Char) := charsOfPieces 0 (pieces none bs)

/-- The character that stands for a piece, the replacement character unless it is one itself. -/
def Piece.toChar : Piece → Char
  | .char c => c
  | .illFormed _ => '\ufffd'
  | .truncated _ => '\ufffd'

/-- The text of a byte string, with a replacement character for each ill-formed piece. -/
def decodeLossy (bs : Bytes) : List Char := (pieces none bs).map Piece.toChar

/-- Whether a byte string is well-formed. -/
def isValid (bs : Bytes) : Bool := match decode bs with
  | .ok _ => true
  | .error _ => false

/-- The description of a fault. -/
def Fault.message : Fault → String
  | .invalid width index => s!"invalid utf-8 sequence of {width} bytes from index {index}"
  | .incomplete index => s!"incomplete utf-8 byte sequence from index {index}"

end Clearance.Utf8
