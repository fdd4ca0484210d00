import Clearance.Digest.Sha512

/-!
# SHA-256

The digest SHA-256. It is built like SHA-512, on words of half the width: the bytes are padded to
blocks of sixty-four bytes, and each block is worked into the state in sixty-four rounds. Constants
and first state are the high halves of those of SHA-512.

## Main definitions

* `Clearance.Digest.Sha256.digest` — the digest of a byte string.
-/

namespace Clearance.Digest.Sha256

/-- The high half of a word. -/
def highHalf (x : UInt64) : UInt32 := (x >>> 32).toUInt32

/-- The constants of the rounds. -/
def roundConstants : List UInt32 := (Sha512.roundConstants.take 64).map highHalf

/-- The state before the first block. -/
def startState : List UInt32 := Sha512.startState.map highHalf

/-- Rotation of a word to the right. -/
def rotateRight (x r : UInt32) : UInt32 := rotate32 x (32 - r)

/-- The words of a block followed by those that it is expanded to. The list is kept with the newest
word first. -/
def expand : (count : Nat) → List UInt32 → List UInt32
  | 0, w => w
  | count + 1, w =>
    let x := w.getD 14 0
    let y := w.getD 1 0
    let s := rotateRight x 7 ^^^ rotateRight x 18 ^^^ (x >>> 3)
    let t := rotateRight y 17 ^^^ rotateRight y 19 ^^^ (y >>> 10)
    expand count ((w.getD 15 0 + s + w.getD 6 0 + t) :: w)

/-- One round: a constant and a word are worked into the state. -/
def round (state : List UInt32) (kw : UInt32 × UInt32) : List UInt32 :=
  match state with
  | [a, b, c, d, e, f, g, h] =>
    let s := rotateRight e 6 ^^^ rotateRight e 11 ^^^ rotateRight e 25
    let choice := (e &&& f) ^^^ (~~~ e &&& g)
    let t := h + s + choice + kw.1 + kw.2
    let u := rotateRight a 2 ^^^ rotateRight a 13 ^^^ rotateRight a 22
    let majority := (a &&& b) ^^^ (a &&& c) ^^^ (b &&& c)
    [t + u + majority, a, b, c, d + t, e, f, g]
  | state => state

/-- Works a block into the state. -/
def absorb (state : List UInt32) (block : Bytes) : List UInt32 :=
  let words := ((bigEndianWords 4 16 block).map UInt32.ofNat).reverse
  let words := (expand 48 words).reverse
  List.zipWith (· + ·) state ((roundConstants.zip words).foldl round state)

/-- The digest of a byte string. -/
def digest (bs : Bytes) : Bytes :=
  let bytes := padded 64 8 bs
  let state := (blocksOf 64 (bytes.length / 64) bytes).foldl absorb startState
  state.flatMap fun word => beBytes 4 word.toNat

end Clearance.Digest.Sha256
