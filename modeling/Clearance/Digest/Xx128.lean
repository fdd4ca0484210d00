import Clearance.Digest.Xx32
import Clearance.Digest.Xx64

/-!
# XXH3 with 128 bits

The 128-bit variant of XXH3 with seed zero and its standard secret. How the bytes are mixed depends
on their number: there are rules for none, up to 3, up to 8, up to 16, up to 128, up to 240 and more
bytes. A digest is a pair of words, the low one first.

## Main definitions

* `Clearance.Digest.Xx128.digest` — the digest of a byte string.
-/

namespace Clearance.Digest.Xx128

open Xx64 (prime1 prime2 prime3 prime4 prime5)

/-- The standard secret. -/
def secret : Bytes :=
  [0xb8, 0xfe, 0x6c, 0x39, 0x23, 0xa4, 0x4b, 0xbe, 0x7c, 0x01, 0x81, 0x2c, 0xf7, 0x21, 0xad, 0x1c,
   0xde, 0xd4, 0x6d, 0xe9, 0x83, 0x90, 0x97, 0xdb, 0x72, 0x40, 0xa4, 0xa4, 0xb7, 0xb3, 0x67, 0x1f,
   0xcb, 0x79, 0xe6, 0x4e, 0xcc, 0xc0, 0xe5, 0x78, 0x82, 0x5a, 0xd0, 0x7d, 0xcc, 0xff, 0x72, 0x21,
   0xb8, 0x08, 0x46, 0x74, 0xf7, 0x43, 0x24, 0x8e, 0xe0, 0x35, 0x90, 0xe6, 0x81, 0x3a, 0x26, 0x4c,
   0x3c, 0x28, 0x52, 0xbb, 0x91, 0xc3, 0x00, 0xcb, 0x88, 0xd0, 0x65, 0x8b, 0x1b, 0x53, 0x2e, 0xa3,
   0x71, 0x64, 0x48, 0x97, 0xa2, 0x0d, 0xf9, 0x4e, 0x38, 0x19, 0xef, 0x46, 0xa9, 0xde, 0xac, 0xd8,
   0xa8, 0xfa, 0x76, 0x3f, 0xe3, 0x9c, 0x34, 0x3f, 0xf9, 0xdc, 0xbb, 0xc7, 0xc7, 0x0b, 0x4f, 0x1d,
   0x8a, 0x51, 0xe0, 0x4b, 0xcd, 0xb4, 0x59, 0x31, 0xc8, 0x9f, 0x7e, 0xc9, 0xd9, 0x78, 0x73, 0x64,
   0xea, 0xc5, 0xac, 0x83, 0x34, 0xd3, 0xeb, 0xc3, 0xc5, 0x81, 0xa0, 0xff, 0xfa, 0x13, 0x63, 0xeb,
   0x17, 0x0d, 0xdd, 0x51, 0xb7, 0xf0, 0xda, 0x49, 0xd3, 0x16, 0x55, 0x26, 0x29, 0xd4, 0x68, 0x9e,
   0x2b, 0x16, 0xbe, 0x58, 0x7d, 0x47, 0xa1, 0xfc, 0x8f, 0xf8, 0xb8, 0xd1, 0x7a, 0xd0, 0x31, 0xce,
   0x45, 0xcb, 0x3a, 0x8f, 0x95, 0x16, 0x04, 0x28, 0xaf, 0xd7, 0xfb, 0xca, 0xbb, 0x4b, 0x40, 0x7e]

/-- The word of the secret from a place on. -/
def key (i : Nat) : UInt64 := word64 secret i

/-- Two words of the secret, combined. -/
def keyPair (i j : Nat) : UInt64 := key i ^^^ key j

/-- A pair of words, the low one first. -/
abbrev Words := UInt64 × UInt64

/-- Lets the bits of a word bear on one another. -/
def avalanche (h : UInt64) : UInt64 := shiftMix (shiftMix h 37 * 0x165667919E3779F9) 32

/-! ### Up to sixteen bytes -/

/-- The digest of up to three bytes, of which the first, the middle and the last are given. -/
def hashTiny (first middle last : UInt8) (length : Nat) : Words :=
  let lo : UInt32 := (first.toUInt32 <<< 16) ||| (middle.toUInt32 <<< 24) ||| last.toUInt32 |||
    (UInt32.ofNat length <<< 8)
  let hi := rotate32 (reverse32 lo) 13
  let flipLo := word32 secret 0 ^^^ word32 secret 4
  let flipHi := word32 secret 8 ^^^ word32 secret 12
  (Xx64.avalanche (lo ^^^ flipLo).toUInt64, Xx64.avalanche (hi ^^^ flipHi).toUInt64)

/-- The digest of four to eight bytes. -/
def hashShort (bs : Bytes) : Words :=
  let n := bs.length
  let word := (word32 bs 0).toUInt64 + ((word32 bs (n - 4)).toUInt64 <<< 32)
  let (lo, hi) := multiplyWide (word ^^^ keyPair 16 24) (prime1 + UInt64.ofNat (4 * n))
  let hi := hi + (lo <<< 1)
  let lo := lo ^^^ (hi >>> 3)
  (shiftMix (shiftMix lo 35 * 0x9FB21C651E98DF25) 28, avalanche hi)

/-- The digest of nine to sixteen bytes. -/
def hashMedium (bs : Bytes) : Words :=
  let n := bs.length
  let wordLo := word64 bs 0
  let wordHi := word64 bs (n - 8)
  let (lo, hi) := multiplyWide (wordLo ^^^ wordHi ^^^ keyPair 32 40) prime1
  let lo := lo + (UInt64.ofNat (n - 1) <<< 54)
  let wordHi := wordHi ^^^ keyPair 48 56
  let hi := hi + wordHi + wordHi.toUInt32.toUInt64 * (Xx32.prime2.toUInt64 - 1)
  let lo := lo ^^^ reverse64 hi
  let (lo', hi') := multiplyWide lo prime2
  (avalanche lo', avalanche (hi' + hi * prime2))

/-! ### Up to 240 bytes -/

/-- Mixes sixteen bytes with sixteen bytes of the secret. -/
def mix16 (bs : Bytes) (i k : Nat) : UInt64 :=
  multiplyFold (word64 bs i ^^^ key k) (word64 bs (i + 8) ^^^ key (k + 8))

/-- The sum of the two words of sixteen bytes. -/
def sum16 (bs : Bytes) (i : Nat) : UInt64 := word64 bs i + word64 bs (i + 8)

/-- Mixes twice sixteen bytes, from `i` and from `j` on, into a pair of words. -/
def mix32 (bs : Bytes) (acc : Words) (i j k : Nat) : Words :=
  ((acc.1 + mix16 bs i k) ^^^ sum16 bs j, (acc.2 + mix16 bs j (k + 16)) ^^^ sum16 bs i)

/-- The digest of the pair of words into which all bytes have been mixed. -/
def close (acc : Words) (length : Nat) : Words :=
  let hi := acc.1 * prime1 + acc.2 * prime4 + UInt64.ofNat length * prime2
  (avalanche (acc.1 + acc.2), 0 - avalanche hi)

/-- The pair of words before any bytes have been mixed into it. -/
def start (length : Nat) : Words := (UInt64.ofNat length * prime1, 0)

/-- Mixes the first and the last `count` groups of sixteen bytes, the innermost first. -/
def mixEnds (bs : Bytes) (acc : Words) : (count : Nat) → Words
  | 0 => acc
  | count + 1 =>
    mix32 bs acc (16 * count) (bs.length - 16 * (count + 1)) (32 * count) |>
      fun acc => mixEnds bs acc count

/-- The digest of seventeen to 128 bytes. -/
def hashLong (bs : Bytes) : Words :=
  close (mixEnds bs (start bs.length) ((bs.length + 31) / 32)) bs.length

/-- Mixes the groups of thirty-two bytes with given numbers. -/
def mixGroups (bs : Bytes) (keyOf : Nat → Nat) (acc : Words) (groups : List Nat) : Words :=
  groups.foldl (fun acc g => mix32 bs acc (32 * g) (32 * g + 16) (keyOf g)) acc

/-- The digest of 129 to 240 bytes. -/
def hashLonger (bs : Bytes) : Words :=
  let n := bs.length
  let acc := mixGroups bs (32 * ·) (start n) (List.range 4)
  let acc := (avalanche acc.1, avalanche acc.2)
  let acc := mixGroups bs (fun g => 32 * (g - 4) + 3) acc (List.range' 4 (n / 32 - 4))
  close (mix32 bs acc (n - 16) (n - 32) 103) n

/-! ### More than 240 bytes -/

/-- The eight lanes before any bytes have been mixed into them. -/
def startLanes : List UInt64 :=
  [Xx32.prime3.toUInt64, prime1, prime2, prime3, prime4, Xx32.prime2.toUInt64, prime5,
    Xx32.prime1.toUInt64]

/-- The places of the eight words of a stripe. -/
def lanePlaces : List Nat := [0, 8, 16, 24, 32, 40, 48, 56]

/-- Neighbouring members of a list exchanged. -/
def swapPairs : List UInt64 → List UInt64
  | x :: y :: l => y :: x :: swapPairs l
  | l => l

/-- The product of the two halves of a word. -/
def multiplyHalves (x : UInt64) : UInt64 := x.toUInt32.toUInt64 * (x >>> 32)

/-- Mixes the stripe of sixty-four bytes from `i` on into the lanes. -/
def accumulate (bs : Bytes) (lanes : List UInt64) (i k : Nat) : List UInt64 :=
  let words := lanePlaces.map fun p => word64 bs (i + p)
  let products := List.zipWith (fun w p => multiplyHalves (w ^^^ key (k + p))) words lanePlaces
  List.zipWith (· + ·) (List.zipWith (· + ·) lanes products) (swapPairs words)

/-- Mixes a number of stripes into the lanes. -/
def stripes (bs : Bytes) (lanes : List UInt64) (i count : Nat) : List UInt64 :=
  (List.range count).foldl (fun lanes n => accumulate bs lanes (i + 64 * n) (8 * n)) lanes

/-- Mixes the lanes at the end of a block. -/
def scramble (lanes : List UInt64) : List UInt64 :=
  List.zipWith (fun lane p => (shiftMix lane 47 ^^^ key (128 + p)) * Xx32.prime1.toUInt64) lanes
    lanePlaces

/-- Mixes the lanes into one word. -/
def mergeLanes (lanes : List UInt64) (k : Nat) (h : UInt64) : UInt64 :=
  avalanche (go lanes k h)
where
  /-- Adds the products of neighbouring lanes. -/
  go : List UInt64 → Nat → UInt64 → UInt64
    | x :: y :: l, k, h => go l (k + 16) (h + multiplyFold (x ^^^ key k) (y ^^^ key (k + 8)))
    | _, _, h => h

/-- The digest of more than 240 bytes. -/
def hashHuge (bs : Bytes) : Words :=
  let n := bs.length
  let blockCount := (n - 1) / 1024
  let lanes := (List.range blockCount).foldl
    (fun lanes b => scramble (stripes bs lanes (1024 * b) 16)) startLanes
  let lanes := stripes bs lanes (1024 * blockCount) ((n - 1 - 1024 * blockCount) / 64)
  let lanes := accumulate bs lanes (n - 64) 121
  (mergeLanes lanes 11 (UInt64.ofNat n * prime1),
    mergeLanes lanes 117 (~~~ (UInt64.ofNat n * prime2)))

/-! ### The digest -/

/-- The digest as a pair of words. -/
def hash (bs : Bytes) : Words :=
  match bs with
  | [] => (Xx64.avalanche (keyPair 64 72), Xx64.avalanche (keyPair 80 88))
  | [a] => hashTiny a a a 1
  | [a, b] => hashTiny a b b 2
  | [a, b, c] => hashTiny a b c 3
  | bs =>
    if bs.length ≤ 8 then hashShort bs
    else if bs.length ≤ 16 then hashMedium bs
    else if bs.length ≤ 128 then hashLong bs
    else if bs.length ≤ 240 then hashLonger bs
    else hashHuge bs

/-- The digest, the most significant byte first. -/
def digest (bs : Bytes) : Bytes :=
  let (lo, hi) := hash bs
  beBytes 8 hi.toNat ++ beBytes 8 lo.toNat

end Clearance.Digest.Xx128
