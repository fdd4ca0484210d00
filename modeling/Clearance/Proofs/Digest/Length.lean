import Clearance.Codec.ByHash

/-!
# The lengths of digests

All digests of an algorithm have the same length. The state of an algorithm with blocks has eight
words, and no block changes their number.

## Main results

* `Clearance.DigestAlgorithm.length_digest` — the lengths of digests.
-/

namespace Clearance

namespace Digest

theorem length_beBytes (width n : Nat) : (beBytes width n).length = width := by
  rw [beBytes, List.length_reverse, length_leBytes]

/-- Steps that keep the length of a list keep it when they are made one after the other. -/
theorem length_foldl {α ω : Type} {f : List ω → α → List ω}
    (hf : ∀ state a, (f state a).length = state.length) :
    ∀ (as : List α) (state : List ω), (as.foldl f state).length = state.length
  | [], _ => rfl
  | a :: as, state => by rw [List.foldl_cons, length_foldl hf as, hf]

theorem length_flatMap_beBytes {ω : Type} (width : Nat) (value : ω → Nat) :
    ∀ state : List ω, (state.flatMap fun w => beBytes width (value w)).length = width * state.length
  | [] => rfl
  | w :: state => by
    rw [List.flatMap_cons, List.length_append, length_beBytes,
      length_flatMap_beBytes width value state, List.length_cons, Nat.mul_succ, Nat.add_comm]

namespace Sha512

theorem length_round (state : List UInt64) (kw : UInt64 × UInt64) :
    (round state kw).length = state.length := by
  unfold round
  split
  · rfl
  · rfl

theorem length_absorb (state : List UInt64) (block : Bytes) :
    (absorb state block).length = state.length := by
  unfold absorb
  rw [List.length_zipWith, length_foldl length_round, Nat.min_self]

theorem length_digest (bs : Bytes) : (digest bs).length = 64 := by
  unfold digest
  rw [length_flatMap_beBytes, length_foldl length_absorb]
  rfl

end Sha512

namespace Sha256

theorem length_round (state : List UInt32) (kw : UInt32 × UInt32) :
    (round state kw).length = state.length := by
  unfold round
  split
  · rfl
  · rfl

theorem length_absorb (state : List UInt32) (block : Bytes) :
    (absorb state block).length = state.length := by
  unfold absorb
  rw [List.length_zipWith, length_foldl length_round, Nat.min_self]

theorem length_digest (bs : Bytes) : (digest bs).length = 32 := by
  unfold digest
  rw [length_flatMap_beBytes, length_foldl length_absorb]
  rfl

end Sha256

theorem Xx32.length_digest (bs : Bytes) : (Xx32.digest bs).length = 4 := by
  rw [Xx32.digest, length_beBytes]

theorem Xx64.length_digest (bs : Bytes) : (Xx64.digest bs).length = 8 := by
  rw [Xx64.digest, length_beBytes]

theorem Xx128.length_digest (bs : Bytes) : (Xx128.digest bs).length = 16 := by
  rw [Xx128.digest, List.length_append, length_beBytes, length_beBytes]

end Digest

/-- **All digests of an algorithm have the same length.** -/
theorem DigestAlgorithm.length_digest (algorithm : DigestAlgorithm) (bs : Bytes) :
    (algorithm.digest bs).length = algorithm.length := by
  cases algorithm with
  | xx32 => exact Digest.Xx32.length_digest bs
  | xx64 => exact Digest.Xx64.length_digest bs
  | xx128 => exact Digest.Xx128.length_digest bs
  | sha256 => exact Digest.Sha256.length_digest bs
  | sha512 => exact Digest.Sha512.length_digest bs

end Clearance
