/-!
# Byte strings and little-endian numbers

A byte string is a list of bytes. A natural number is written *little-endian* in a fixed number of
bytes, the least significant first, and read back as the sum of its bytes weighted by powers of 256;
read as a *signed* number of the same width, the upper half of the values stands for the negative
numbers.

## Main definitions

* `Clearance.Bytes` — byte strings.
* `Clearance.leBytes`, `Clearance.leValue`, `Clearance.leSigned` — little-endian numbers.
* `Clearance.beBytes` — the same bytes, most significant first.
-/

namespace Clearance

/-- A string of bytes. -/
abbrev Bytes := List UInt8

/-- The `width` low bytes of `n`, the least significant first. -/
def leBytes : (width : Nat) → (n : Nat) → Bytes
  | 0, _ => []
  | width + 1, n => UInt8.ofNat (n % 256) :: leBytes width (n / 256)

/-- The `width` low bytes of `n`, the most significant first. -/
def beBytes (width n : Nat) : Bytes := (leBytes width n).reverse

/-- The number whose bytes are given, the least significant first. -/
def leValue : Bytes → Nat
  | [] => 0
  | b :: bs => b.toNat + 256 * leValue bs

/-- The number whose bytes are given, the least significant first, in two's complement. -/
def leSigned (bs : Bytes) : Int := Int.bmod (leValue bs) (1 <<< (8 * bs.length))

theorem length_leBytes (width n : Nat) : (leBytes width n).length = width := by
  induction width generalizing n with
  | zero => rfl
  | succ width ih => simp [leBytes, ih]

/-- Reading back a number that fits its width. -/
theorem leValue_leBytes {width n : Nat} (h : n < 1 <<< (8 * width)) :
    leValue (leBytes width n) = n := by
  induction width generalizing n with
  | zero => simp at h; simp [leBytes, leValue, h]
  | succ width ih =>
    have hdiv : n / 256 < 1 <<< (8 * width) := by
      rw [Nat.shiftLeft_eq, Nat.mul_succ, Nat.pow_add] at h
      rw [Nat.shiftLeft_eq, Nat.div_lt_iff_lt_mul (by decide)]
      omega
    have hbyte : (UInt8.ofNat (n % 256)).toNat = n % 256 :=
      UInt8.toNat_ofNat_of_lt (Nat.mod_lt _ (by decide))
    rw [leBytes, leValue, ih hdiv, hbyte]
    omega

/-- Writing again a number that was read, in as many bytes. -/
theorem leBytes_leValue (bs : Bytes) : leBytes bs.length (leValue bs) = bs := by
  induction bs with
  | nil => rfl
  | cons b bs ih =>
    have hbyte : (b.toNat + 256 * leValue bs) % 256 = b.toNat := by
      have := b.toNat_lt
      omega
    have hrest : (b.toNat + 256 * leValue bs) / 256 = leValue bs := by
      have := b.toNat_lt
      omega
    rw [leValue, List.length_cons, leBytes, hbyte, hrest, ih, UInt8.ofNat_toNat]

theorem leValue_lt (bs : Bytes) : leValue bs < 1 <<< (8 * bs.length) := by
  induction bs with
  | nil => decide
  | cons b bs ih =>
    have hbyte := b.toNat_lt
    rw [Nat.shiftLeft_eq, Nat.one_mul] at ih ⊢
    rw [leValue, List.length_cons, Nat.mul_succ, Nat.pow_add]
    omega

end Clearance
