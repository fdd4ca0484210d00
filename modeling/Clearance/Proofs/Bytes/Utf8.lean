import Clearance.Bytes.Utf8

/-!
# UTF-8 is read back

The bytes of a text are read back as the text. So different texts have different bytes.

## Main results

* `Clearance.Utf8.decode_encode` — reading bytes that were written.
* `Clearance.Utf8.encode_injective` — different texts have different bytes.
-/

namespace Clearance.Utf8

/-! ### The bytes of a character -/

theorem toNat_ofNat {n : Nat} (h : n < 0x100) : (UInt8.ofNat n).toNat = n :=
  UInt8.toNat_ofNat_of_lt h

theorem toNat_continuation (n : Nat) : (continuation n).toNat = 0x80 + n % 0x40 :=
  toNat_ofNat (by omega)

theorem step_continuation {p : Pending} {n : Nat} (hlo : p.lo ≤ 0x80 + n % 0x40)
    (hhi : 0x80 + n % 0x40 ≤ p.hi) :
    p.step (continuation n) =
      if p.need ≤ 1 then .done (Char.ofNat (p.value * 0x40 + n % 0x40))
      else .more ⟨p.need - 1, p.value * 0x40 + n % 0x40, 0x80, 0xBF, p.seen + 1⟩ := by
  have hbits : 0x80 + n % 0x40 - 0x80 = n % 0x40 := by omega
  simp only [Pending.step, toNat_continuation, hbits]
  rw [if_pos ⟨hlo, hhi⟩]

/-- A continuation byte that is not the last. -/
theorem pieces_continuation {need value lo hi seen n : Nat} (hlo : lo ≤ 0x80 + n % 0x40)
    (hhi : 0x80 + n % 0x40 ≤ hi) (bs : Bytes) :
    pieces (some ⟨need + 2, value, lo, hi, seen⟩) (continuation n :: bs)
      = pieces (some ⟨need + 1, value * 0x40 + n % 0x40, 0x80, 0xBF, seen + 1⟩) bs := by
  have hstep := step_continuation (p := ⟨need + 2, value, lo, hi, seen⟩) hlo hhi
  rw [if_neg (by dsimp only; omega)] at hstep
  rw [pieces, hstep]
  rfl

/-- The last continuation byte. -/
theorem pieces_last {value lo hi seen n : Nat} (hlo : lo ≤ 0x80 + n % 0x40)
    (hhi : 0x80 + n % 0x40 ≤ hi) (bs : Bytes) :
    pieces (some ⟨1, value, lo, hi, seen⟩) (continuation n :: bs)
      = .char (Char.ofNat (value * 0x40 + n % 0x40)) :: pieces none bs := by
  have hstep := step_continuation (p := ⟨1, value, lo, hi, seen⟩) hlo hhi
  rw [if_pos (Nat.le_refl 1)] at hstep
  rw [pieces, hstep]

/-! ### The first byte of a character -/

theorem start_two {m : Nat} (hlo : 2 ≤ m) (hhi : m < 0x20) :
    start (UInt8.ofNat (0xC0 + m)) = .more ⟨1, m, 0x80, 0xBF, 1⟩ := by
  have hm : 0xC0 + m - 0xC0 = m := by omega
  simp only [start, toNat_ofNat (show 0xC0 + m < 0x100 by omega), hm]
  rw [if_neg (by omega), if_neg (by omega), if_pos (by omega)]

/-- The first of three bytes. Its bounds let the second one through. -/
theorem start_three {m k : Nat} (hm : m < 0x10) (hk : k < 0x40) (hshort : m = 0 → 0x20 ≤ k)
    (hsurrogate : m = 0xD → k < 0x20) :
    ∃ lo hi, start (UInt8.ofNat (0xE0 + m)) = .more ⟨2, m, lo, hi, 1⟩ ∧ lo ≤ 0x80 + k ∧
      0x80 + k ≤ hi := by
  have hvalue : 0xE0 + m - 0xE0 = m := by omega
  simp only [start, toNat_ofNat (show 0xE0 + m < 0x100 by omega), hvalue]
  rw [if_neg (by omega), if_neg (by omega), if_neg (by omega)]
  by_cases h0 : m = 0
  · subst h0
    exact ⟨0xA0, 0xBF, rfl, by omega, by omega⟩
  by_cases hD : m = 0xD
  · subst hD
    exact ⟨0x80, 0x9F, rfl, by omega, by omega⟩
  rw [if_neg (by omega), if_neg (by omega), if_pos (by omega)]
  exact ⟨0x80, 0xBF, rfl, by omega, by omega⟩

/-- The first of four bytes. Its bounds let the second one through. -/
theorem start_four {m k : Nat} (hm : m < 5) (hk : k < 0x40) (hshort : m = 0 → 0x10 ≤ k)
    (hlast : m = 4 → k < 0x10) :
    ∃ lo hi, start (UInt8.ofNat (0xF0 + m)) = .more ⟨3, m, lo, hi, 1⟩ ∧ lo ≤ 0x80 + k ∧
      0x80 + k ≤ hi := by
  have hvalue : 0xF0 + m - 0xF0 = m := by omega
  simp only [start, toNat_ofNat (show 0xF0 + m < 0x100 by omega), hvalue]
  rw [if_neg (by omega), if_neg (by omega), if_neg (by omega), if_neg (by omega),
    if_neg (by omega), if_neg (by omega)]
  by_cases h0 : m = 0
  · subst h0
    exact ⟨0x90, 0xBF, rfl, by omega, by omega⟩
  by_cases h4 : m = 4
  · subst h4
    exact ⟨0x80, 0x8F, rfl, by omega, by omega⟩
  rw [if_neg (by omega), if_pos (by omega)]
  exact ⟨0x80, 0xBF, rfl, by omega, by omega⟩

theorem pieces_start {p : Pending} {b : UInt8} (h : start b = .more p) (bs : Bytes) :
    pieces none (b :: bs) = pieces (some p) bs := by
  rw [pieces, h]

/-! ### Reading -/

/-- A character that was written is read. -/
theorem pieces_encodeChar (c : Char) (bs : Bytes) :
    pieces none (encodeChar c ++ bs) = .char c :: pieces none bs := by
  have hvalid : c.toNat < 0xD800 ∨ 0xDFFF < c.toNat ∧ c.toNat < 0x110000 := c.valid
  have hc : Char.ofNat c.toNat = c := Char.ofNat_toNat c
  unfold encodeChar
  generalize c.toNat = n at hvalid hc
  by_cases h1 : n < 0x80
  · have hstart : start (UInt8.ofNat n) = .done c := by
      simp only [start, toNat_ofNat (show n < 0x100 by omega)]
      rw [if_pos h1, hc]
    rw [if_pos h1, List.cons_append, List.nil_append, pieces, hstart]
  rw [if_neg h1]
  by_cases h2 : n < 0x800
  · have hbits : n / 0x40 * 0x40 + n % 0x40 = n := by omega
    rw [if_pos h2, List.cons_append, pieces_start (start_two (by omega) (by omega)),
      List.cons_append, pieces_last (by omega) (by omega), hbits, hc]
    rfl
  rw [if_neg h2]
  by_cases h3 : n < 0x10000
  · obtain ⟨lo, hi, hstart, hlo, hhi⟩ := start_three (m := n / 0x1000) (k := n / 0x40 % 0x40)
      (by omega) (by omega) (by omega) (by omega)
    have hbits : (n / 0x1000 * 0x40 + n / 0x40 % 0x40) * 0x40 + n % 0x40 = n := by omega
    rw [if_pos h3, List.cons_append, pieces_start hstart, List.cons_append,
      pieces_continuation hlo hhi, List.cons_append, pieces_last (by omega) (by omega), hbits, hc]
    rfl
  · obtain ⟨lo, hi, hstart, hlo, hhi⟩ := start_four (m := n / 0x40000) (k := n / 0x1000 % 0x40)
      (by omega) (by omega) (by omega) (by omega)
    have hbits : ((n / 0x40000 * 0x40 + n / 0x1000 % 0x40) * 0x40 + n / 0x40 % 0x40) * 0x40
        + n % 0x40 = n := by omega
    rw [if_neg h3, List.cons_append, pieces_start hstart, List.cons_append,
      pieces_continuation hlo hhi, List.cons_append,
      pieces_continuation (by omega) (by omega), List.cons_append,
      pieces_last (by omega) (by omega), hbits, hc]
    rfl

theorem pieces_encode : ∀ s : List Char, pieces none (encode s) = s.map .char
  | [] => rfl
  | c :: s => by
    have hcons : encode (c :: s) = encodeChar c ++ encode s := List.flatMap_cons
    rw [hcons, pieces_encodeChar, pieces_encode s, List.map_cons]

theorem charsOfPieces_map_char : ∀ (index : Nat) (s : List Char),
    charsOfPieces index (s.map .char) = .ok s
  | _, [] => rfl
  | index, c :: s => by
    rw [List.map_cons, charsOfPieces, charsOfPieces_map_char]
    rfl

/-- **A text is read back from its bytes.** -/
theorem decode_encode (s : List Char) : decode (encode s) = .ok s := by
  rw [decode, pieces_encode, charsOfPieces_map_char]

theorem encode_injective {s t : List Char} (h : encode s = encode t) : s = t := by
  have hs := decode_encode s
  rw [h, decode_encode t] at hs
  cases hs
  rfl

end Clearance.Utf8
