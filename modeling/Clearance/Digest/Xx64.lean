import Clearance.Digest.Words

/-!
# XXH64

The 64-bit digest XXH64 with seed zero. Blocks of thirty-two bytes are mixed into four lanes; the
lanes, the length and the bytes after the last block are mixed into one word.

## Main definitions

* `Clearance.Digest.Xx64.digest` — the digest of a byte string.
-/

namespace Clearance.Digest.Xx64

/-- The first multiplier. -/
def prime1 : UInt64 := 0x9E3779B185EBCA87
/-- The second multiplier. -/
def prime2 : UInt64 := 0xC2B2AE3D27D4EB4F
/-- The third multiplier. -/
def prime3 : UInt64 := 0x165667B19E3779F9
/-- The fourth multiplier. -/
def prime4 : UInt64 := 0x85EBCA77C2B2AE63
/-- The fifth multiplier. -/
def prime5 : UInt64 := 0x27D4EB2F165667C5

/-- Mixes a word into a lane. -/
def round (lane word : UInt64) : UInt64 := rotate64 (lane + word * prime2) 31 * prime1

/-- Mixes a lane into the digest. -/
def mergeLane (h lane : UInt64) : UInt64 := (h ^^^ round 0 lane) * prime1 + prime4

/-- The lanes after a number of blocks, and the bytes that are left. -/
def blocks : (count : Nat) → List UInt64 → Bytes → List UInt64 × Bytes
  | 0, lanes, bs => (lanes, bs)
  | count + 1, lanes, bs =>
    blocks count (List.zipWith round lanes ([0, 8, 16, 24].map (word64 bs))) (bs.drop 32)

/-- Mixes single bytes into a word. -/
def tailBytes (h : UInt64) (bs : Bytes) : UInt64 :=
  bs.foldl (fun h b => rotate64 (h ^^^ (b.toUInt64 * prime5)) 11 * prime1) h

/-- Mixes less than eight bytes into a word: a half word first, if there is one, then single
bytes. -/
def tailHalf : (h : UInt64) → Bytes → UInt64
  | h, a :: b :: c :: d :: bs =>
    tailBytes (rotate64 (h ^^^ (word64 [a, b, c, d] 0 * prime1)) 23 * prime2 + prime3) bs
  | h, bs => tailBytes h bs

/-- Mixes the bytes after the last block into a word: whole words first, at most `count` of them. -/
def tail : (count : Nat) → (h : UInt64) → Bytes → UInt64
  | 0, h, bs => tailHalf h bs
  | count + 1, h, bs =>
    tail count (rotate64 (h ^^^ round 0 (word64 bs 0)) 27 * prime1 + prime4) (bs.drop 8)

/-- Lets every bit of a word bear on every other. -/
def avalanche (h : UInt64) : UInt64 :=
  shiftMix (shiftMix (shiftMix h 33 * prime2) 29 * prime3) 32

/-- The lanes before the first block. -/
def startLanes : List UInt64 := [prime1 + prime2, prime2, 0, 0 - prime1]

/-- The digest as a word. -/
def hash (bs : Bytes) : UInt64 :=
  let (lanes, rest) := blocks (bs.length / 32) startLanes bs
  let h := if bs.length < 32 then prime5
    else lanes.foldl mergeLane ((List.zipWith rotate64 lanes [1, 7, 12, 18]).foldl (· + ·) 0)
  avalanche (tail (rest.length / 8) (h + UInt64.ofNat bs.length) rest)

/-- The digest, the most significant byte first. -/
def digest (bs : Bytes) : Bytes := beBytes 8 (hash bs).toNat

end Clearance.Digest.Xx64
