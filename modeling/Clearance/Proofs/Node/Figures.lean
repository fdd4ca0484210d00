import Clearance.Proofs.Node.Canonical
import Mathlib.Algebra.Order.Field.Rat
import Mathlib.Data.Nat.Digits.Defs
import Mathlib.Tactic.FieldSimp
import Mathlib.Tactic.Positivity

/-!
# Figures and their values

A number is written with a sign, digits before the point and digits after it. The number so written
is the number that all its digits spell together, divided by a power of ten. A sign before zero does
not count, nor do zeros at the two ends: writings of one number differ in nothing else.

Digits of one length spell different numbers. Of digits that do not have one length, the shorter
ones are filled up with zeros, at the front or at the back, which changes neither the number nor
what is left when the zeros are dropped.

## Main definitions

* `Clearance.Canonical.digitsValue` — the number that digits spell.
* `Clearance.Canonical.Figures`, `Clearance.Canonical.Figures.value` — the writing of a number, and
  the number.
* `Clearance.Canonical.Figures.reduced` — the writing without what does not count.

## Main results

* `Clearance.Canonical.digitsValue_inj` — digits of one length.
* `Clearance.Canonical.Figures.value_reduced`, `Clearance.Canonical.Figures.reduced_eq_reduced_iff`
  — what writings of one number have in common.
-/

namespace Clearance.Canonical

/-! ### Digits -/

variable {c : Char} {s t : List Char}

/-- The number that a digit stands for. -/
def digitValue (c : Char) : Nat := c.toNat - '0'.toNat

/-- The number that digits spell together. -/
def digitsValue (s : List Char) : Nat := Nat.ofDigits 10 (s.reverse.map digitValue)

/-- Zeros, as many as asked for. -/
def zeros (n : Nat) : List Char := List.replicate n '0'

instance : DecidablePred AllDigits := fun s =>
  decidable_of_iff (s.all Char.isDigit = true) List.all_eq_true

theorem toNat_of_isDigit (h : c.isDigit = true) :
    c.toNat = digitValue c + 48 ∧ digitValue c < 10 := by
  have hrange : 48 ≤ c.toNat ∧ c.toNat ≤ 57 := by
    simpa [Char.isDigit, UInt32.le_iff_toNat_le] using h
  have hzero : '0'.toNat = 48 := rfl
  rw [digitValue, hzero]
  omega

theorem digitChar_digitValue (h : c.isDigit = true) : Nat.digitChar (digitValue c) = c := by
  have hchar : ∀ n < 10, Nat.digitChar n = Char.ofNat (n + 48) := by decide
  obtain ⟨hc, hlt⟩ := toNat_of_isDigit h
  rw [hchar _ hlt, ← hc, Char.ofNat_toNat]

theorem allDigits_append : AllDigits (s ++ t) ↔ AllDigits s ∧ AllDigits t := List.forall_mem_append

theorem allDigits_zeros (n : Nat) : AllDigits (zeros n) := by
  intro c hc
  cases List.eq_of_mem_replicate hc
  rfl

theorem length_zeros (n : Nat) : (zeros n).length = n := List.length_replicate

theorem digitsValue_append (s t : List Char) :
    digitsValue (s ++ t) = digitsValue s * 10 ^ t.length + digitsValue t := by
  rw [digitsValue, List.reverse_append, List.map_append, Nat.ofDigits_append, List.length_map,
    List.length_reverse, Nat.add_comm, Nat.mul_comm]
  rfl

theorem digitsValue_zeros (n : Nat) : digitsValue (zeros n) = 0 := by
  rw [digitsValue, zeros, List.reverse_replicate, List.map_replicate]
  exact Nat.ofDigits_replicate_zero

theorem digitsValue_zeros_append (n : Nat) (s : List Char) :
    digitsValue (zeros n ++ s) = digitsValue s := by
  rw [digitsValue_append, digitsValue_zeros, Nat.zero_mul, Nat.zero_add]

theorem digitsValue_append_zeros (s : List Char) (n : Nat) :
    digitsValue (s ++ zeros n) = digitsValue s * 10 ^ n := by
  rw [digitsValue_append, digitsValue_zeros, length_zeros, Nat.add_zero]

theorem map_digitChar (h : AllDigits s) : (s.map digitValue).map Nat.digitChar = s := by
  rw [List.map_map]
  exact (List.map_congr_left fun c hc => digitChar_digitValue (h c hc)).trans (List.map_id s)

/-- **Digits of one length that spell one number** are the same digits. -/
theorem digitsValue_inj (hs : AllDigits s) (ht : AllDigits t) (hlength : s.length = t.length)
    (h : digitsValue s = digitsValue t) : s = t := by
  have hlt : ∀ u : List Char, AllDigits u → ∀ n ∈ u.reverse.map digitValue, n < 10 := by
    intro u hu n hn
    obtain ⟨c, hc, rfl⟩ := List.mem_map.1 hn
    exact (toNat_of_isDigit (hu c (List.mem_reverse.1 hc))).2
  have hvalues : s.reverse.map digitValue = t.reverse.map digitValue :=
    Nat.ofDigits_inj_of_len_eq (by omega) (by simpa using hlength) (hlt s hs) (hlt t ht) h
  rw [List.map_reverse, List.map_reverse, List.reverse_inj] at hvalues
  rw [← map_digitChar hs, hvalues, map_digitChar ht]

/-! ### Zeros at the ends -/

/-- A text of digits without the zeros at its end. -/
def dropZerosEnd (s : List Char) : List Char := Text.dropWhileEnd (· = '0') s

theorem allDigits_dropZerosEnd (h : AllDigits s) : AllDigits (dropZerosEnd s) :=
  fun c hc => h c ((Text.dropWhileEnd_prefix _).subset hc)

theorem dropZerosEnd_dropZerosEnd (s : List Char) :
    dropZerosEnd (dropZerosEnd s) = dropZerosEnd s :=
  Text.dropWhileEnd_dropWhileEnd _ s

theorem dropZeros_zeros_append (n : Nat) (s : List Char) : dropZeros (zeros n ++ s) = dropZeros s :=
  List.dropWhile_append_of_pos fun _ hc => decide_eq_true (List.eq_of_mem_replicate hc)

theorem dropZerosEnd_append_zeros (s : List Char) (n : Nat) :
    dropZerosEnd (s ++ zeros n) = dropZerosEnd s :=
  Text.dropWhileEnd_append_of_pos (fun _ hc => decide_eq_true (List.eq_of_mem_replicate hc)) s

theorem eq_zeros (h : ∀ c ∈ s, decide (c = '0') = true) : s = zeros s.length :=
  List.eq_replicate_of_mem fun c hc => of_decide_eq_true (h c hc)

theorem exists_eq_zeros_append (s : List Char) : ∃ n, s = zeros n ++ dropZeros s := by
  refine ⟨(s.takeWhile (· = '0')).length, ?_⟩
  rw [← eq_zeros fun c hc => List.all_eq_true.1 List.all_takeWhile c hc]
  exact List.takeWhile_append_dropWhile.symm

theorem exists_eq_append_zeros (s : List Char) : ∃ n, s = dropZerosEnd s ++ zeros n := by
  obtain ⟨dropped, hs, hdropped⟩ := Text.exists_eq_dropWhileEnd_append (p := (· = '0')) s
  exact ⟨dropped.length, (eq_zeros hdropped) ▸ hs⟩

theorem digitsValue_dropZeros (s : List Char) : digitsValue (dropZeros s) = digitsValue s := by
  obtain ⟨n, hs⟩ := exists_eq_zeros_append s
  rw [← digitsValue_zeros_append n, ← hs]

/-! ### Digits around a point -/

/-- The number that digits before and after a point spell. -/
def magnitude (whole fraction : List Char) : ℚ :=
  digitsValue (whole ++ fraction) / 10 ^ fraction.length

variable {whole whole' fraction fraction' : List Char}

theorem magnitude_nonneg (whole fraction : List Char) : 0 ≤ magnitude whole fraction := by
  unfold magnitude
  positivity

theorem magnitude_nil : magnitude [] [] = 0 := by
  simp [magnitude, digitsValue]

theorem magnitude_dropZeros (whole fraction : List Char) :
    magnitude (dropZeros whole) fraction = magnitude whole fraction := by
  rw [magnitude, magnitude, digitsValue_append, digitsValue_append, digitsValue_dropZeros]

theorem magnitude_append_zeros (whole fraction : List Char) (n : Nat) :
    magnitude whole (fraction ++ zeros n) = magnitude whole fraction := by
  rw [magnitude, magnitude, ← List.append_assoc, digitsValue_append_zeros, List.length_append,
    length_zeros, pow_add]
  push_cast
  exact mul_div_mul_right _ _ (by positivity)

theorem magnitude_dropZerosEnd (whole fraction : List Char) :
    magnitude whole (dropZerosEnd fraction) = magnitude whole fraction := by
  obtain ⟨n, hfraction⟩ := exists_eq_append_zeros fraction
  conv_rhs => rw [hfraction, magnitude_append_zeros]

/-- **Digits around a point that spell one number** differ in the zeros at their two ends only. -/
theorem dropZeros_eq_of_magnitude (hwhole : AllDigits whole) (hfraction : AllDigits fraction)
    (hwhole' : AllDigits whole') (hfraction' : AllDigits fraction')
    (h : magnitude whole fraction = magnitude whole' fraction') :
    dropZeros whole = dropZeros whole' ∧ dropZerosEnd fraction = dropZerosEnd fraction' := by
  -- Filled up with zeros, the digits on each side of the point have one length.
  have hvalue : digitsValue (whole ++ (fraction ++ zeros fraction'.length))
      = digitsValue (whole' ++ (fraction' ++ zeros fraction.length)) := by
    rw [← magnitude_append_zeros whole fraction fraction'.length,
      ← magnitude_append_zeros whole' fraction' fraction.length, magnitude, magnitude,
      List.length_append, List.length_append, length_zeros, length_zeros,
      Nat.add_comm fraction'.length, div_left_inj' (by positivity)] at h
    exact_mod_cast h
  have hfilled : zeros whole'.length ++ whole ++ (fraction ++ zeros fraction'.length)
      = zeros whole.length ++ whole' ++ (fraction' ++ zeros fraction.length) := by
    refine digitsValue_inj ?_ ?_ ?_ ?_
    · simp only [allDigits_append, allDigits_zeros, hwhole, hfraction, and_self]
    · simp only [allDigits_append, allDigits_zeros, hwhole', hfraction', and_self]
    · simp only [List.length_append, length_zeros]
      omega
    · rw [List.append_assoc, List.append_assoc, digitsValue_zeros_append, digitsValue_zeros_append,
        hvalue]
  obtain ⟨hfront, hback⟩ := List.append_inj hfilled (by
    simp only [List.length_append, length_zeros]
    omega)
  constructor
  · rw [← dropZeros_zeros_append whole'.length whole, hfront, dropZeros_zeros_append]
  · rw [← dropZerosEnd_append_zeros fraction fraction'.length, hback, dropZerosEnd_append_zeros]

/-! ### Figures -/

/-- The writing of a number. -/
@[ext]
structure Figures where
  /-- Whether there is a minus. -/
  negative : Bool
  /-- The digits before the point. -/
  whole : List Char
  /-- The digits after the point. -/
  fraction : List Char
deriving DecidableEq

namespace Figures

variable {f g : Figures}

/-- Whether nothing but digits is written where digits belong. -/
def Valid (f : Figures) : Prop := AllDigits f.whole ∧ AllDigits f.fraction

instance : DecidablePred Valid := fun f =>
  inferInstanceAs (Decidable (AllDigits f.whole ∧ AllDigits f.fraction))

/-- The number that is written. -/
def value (f : Figures) : ℚ :=
  if f.negative then -magnitude f.whole f.fraction else magnitude f.whole f.fraction

/-- Whether no digit but zero is written. -/
def isZero (f : Figures) : Bool := (dropZeros f.whole).isEmpty && (dropZerosEnd f.fraction).isEmpty

/-- The writing without zeros at the ends and without a sign before zero. -/
def reduced (f : Figures) : Figures where
  negative := f.negative && !f.isZero
  whole := dropZeros f.whole
  fraction := dropZerosEnd f.fraction

theorem magnitude_eq_zero_iff (hf : f.Valid) :
    magnitude f.whole f.fraction = 0 ↔ f.isZero = true := by
  rw [isZero, Bool.and_eq_true, List.isEmpty_iff, List.isEmpty_iff]
  constructor
  · intro h
    have hnil : AllDigits [] := fun _ hc => absurd hc List.not_mem_nil
    exact dropZeros_eq_of_magnitude hf.1 hf.2 hnil hnil (h.trans magnitude_nil.symm)
  · rintro ⟨hwhole, hfraction⟩
    rw [← magnitude_dropZeros, ← magnitude_dropZerosEnd, hwhole, hfraction, magnitude_nil]

theorem Valid.reduced (hf : f.Valid) : f.reduced.Valid :=
  ⟨allDigits_dropZeros hf.1, allDigits_dropZerosEnd hf.2⟩

/-- What does not count changes no number. -/
theorem value_reduced (hf : f.Valid) : f.reduced.value = f.value := by
  have hmagnitude : magnitude f.reduced.whole f.reduced.fraction = magnitude f.whole f.fraction :=
    (magnitude_dropZeros _ _).trans (magnitude_dropZerosEnd _ _)
  rw [value, value, hmagnitude]
  cases hnegative : f.negative with
  | false => simp [reduced, hnegative]
  | true =>
    cases hzero : f.isZero with
    | false => simp [reduced, hnegative, hzero]
    | true => simp [reduced, hnegative, hzero, (magnitude_eq_zero_iff hf).2 hzero]

theorem abs_value (f : Figures) : |f.value| = magnitude f.whole f.fraction := by
  unfold value
  split
  · rw [abs_neg, abs_of_nonneg (magnitude_nonneg _ _)]
  · exact abs_of_nonneg (magnitude_nonneg _ _)

/-- The sign that is left stands before the numbers below zero. -/
theorem reduced_negative_iff (hf : f.Valid) : f.reduced.negative = true ↔ f.value < 0 := by
  have hnonneg := magnitude_nonneg f.whole f.fraction
  rw [value, reduced, Bool.and_eq_true, Bool.not_eq_true', ← Bool.not_eq_true,
    ← magnitude_eq_zero_iff hf]
  split
  · next hnegative =>
    rw [neg_lt_zero, lt_iff_le_and_ne, ne_comm]
    exact and_congr_left fun _ => iff_of_true hnegative hnonneg
  · next hnegative => exact iff_of_false (fun h => hnegative h.1) hnonneg.not_gt

/-- **Writings of one number** are the same without what does not count. -/
theorem reduced_eq_reduced_iff (hf : f.Valid) (hg : g.Valid) :
    f.reduced = g.reduced ↔ f.value = g.value := by
  constructor
  · intro h
    rw [← value_reduced hf, h, value_reduced hg]
  · intro h
    have hmagnitude : magnitude f.whole f.fraction = magnitude g.whole g.fraction := by
      rw [← abs_value, h, abs_value]
    obtain ⟨hwhole, hfraction⟩ := dropZeros_eq_of_magnitude hf.1 hf.2 hg.1 hg.2 hmagnitude
    have hnegative : f.reduced.negative = g.reduced.negative := by
      rw [Bool.eq_iff_iff, reduced_negative_iff hf, reduced_negative_iff hg, h]
    exact Figures.ext hnegative hwhole hfraction

end Figures

end Clearance.Canonical
