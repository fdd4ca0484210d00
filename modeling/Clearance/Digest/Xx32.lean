import Clearance.Digest.Words

/-!
# XXH32

The 32-bit digest XXH32 with seed zero. Blocks of sixteen bytes are mixed into four lanes; the
lanes, the length and the bytes after the last block are mixed into one word.

## Main definitions

* `Clearance.Digest.Xx32.digest` — the digest of a byte string.
-/

namespace Clearance.Digest.Xx32

/-- The first multiplier. -/
def prime1 : UInt32 := 2654435761
/-- The second multiplier. -/
def prime2 : UInt32 := 2246822519
/-- The third multiplier. -/
def prime3 : UInt32 := 3266489917
/-- The fourth multiplier. -/
def prime4 : UInt32 := 668265263
/-- The fifth multiplier. -/
def prime5 : UInt32 := 374761393

/-- Mixes a word into a lane. -/
def round (lane word : UInt32) : UInt32 := rotate32 (lane + word * prime2) 13 * prime1

/-- The lanes after a number of blocks, and the bytes that are left. -/
def blocks : (count : Nat) → List UInt32 → Bytes → List UInt32 × Bytes
  | 0, lanes, bs => (lanes, bs)
  | count + 1, lanes, bs =>
    blocks count (List.zipWith round lanes ([0, 4, 8, 12].map (word32 bs))) (bs.drop 16)

/-- Mixes the bytes after the last block into a word: whole words first, then single bytes. -/
def tail : (h : UInt32) → Bytes → UInt32
  | h, a :: b :: c :: d :: bs => tail (rotate32 (h + word32 [a, b, c, d] 0 * prime3) 17 * prime4) bs
  | h, b :: bs => tail (rotate32 (h + b.toUInt32 * prime5) 11 * prime1) bs
  | h, [] => h

/-- Lets every bit of a word bear on every other. -/
def avalanche (h : UInt32) : UInt32 :=
  let h := (h ^^^ (h >>> 15)) * prime2
  let h := (h ^^^ (h >>> 13)) * prime3
  h ^^^ (h >>> 16)

/-- The lanes before the first block. -/
def startLanes : List UInt32 := [prime1 + prime2, prime2, 0, 0 - prime1]

/-- The digest as a word. -/
def hash (bs : Bytes) : UInt32 :=
  let (lanes, rest) := blocks (bs.length / 16) startLanes bs
  let h := if bs.length < 16 then prime5
    else (List.zipWith rotate32 lanes [1, 7, 12, 18]).foldl (· + ·) 0
  avalanche (tail (h + UInt32.ofNat bs.length) rest)

/-- The digest, the most significant byte first. -/
def digest (bs : Bytes) : Bytes := beBytes 4 (hash bs).toNat

end Clearance.Digest.Xx32
