import Clearance.Bytes.Basic

/-!
# Machine words for digests

Digests are computed on 32-bit and 64-bit words, whose arithmetic wraps around. This file reads
words from byte strings and holds the operations on words that the digests share.

## Main definitions

* `Clearance.Digest.word32`, `Clearance.Digest.word64` — the little-endian words of a byte string.
* `Clearance.Digest.rotate32`, `Clearance.Digest.rotate64` — rotation to the left.
* `Clearance.Digest.multiplyWide`, `Clearance.Digest.multiplyFold` — the double-width product.
-/

namespace Clearance.Digest

/-- The 32-bit word of the four bytes from `i` on, the least significant first. -/
def word32 (bs : Bytes) (i : Nat) : UInt32 := UInt32.ofNat (leValue ((bs.drop i).take 4))

/-- The 64-bit word of the eight bytes from `i` on, the least significant first. -/
def word64 (bs : Bytes) (i : Nat) : UInt64 := UInt64.ofNat (leValue ((bs.drop i).take 8))

/-- Rotation of a 32-bit word to the left by less than its width. -/
def rotate32 (x r : UInt32) : UInt32 := (x <<< r) ||| (x >>> (32 - r))

/-- Rotation of a 64-bit word to the left by less than its width. -/
def rotate64 (x r : UInt64) : UInt64 := (x <<< r) ||| (x >>> (64 - r))

/-- A 32-bit word with its bytes in the opposite order. -/
def reverse32 (x : UInt32) : UInt32 := UInt32.ofNat (leValue (beBytes 4 x.toNat))

/-- A 64-bit word with its bytes in the opposite order. -/
def reverse64 (x : UInt64) : UInt64 := UInt64.ofNat (leValue (beBytes 8 x.toNat))

/-- The low and the high half of the product of two words. -/
def multiplyWide (x y : UInt64) : UInt64 × UInt64 :=
  let p := x.toNat * y.toNat
  (UInt64.ofNat p, UInt64.ofNat (p >>> 64))

/-- The two halves of the product of two words, combined by exclusive or. -/
def multiplyFold (x y : UInt64) : UInt64 :=
  let (lo, hi) := multiplyWide x y
  lo ^^^ hi

/-- A word combined by exclusive or with itself moved to the right. -/
def shiftMix (x r : UInt64) : UInt64 := x ^^^ (x >>> r)

end Clearance.Digest
