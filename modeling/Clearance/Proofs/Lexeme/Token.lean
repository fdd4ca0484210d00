import Mathlib.Data.Bool.AllAny
import Mathlib.Data.List.TakeWhile
import Clearance.Proofs.Lexeme.Layout
import Clearance.Proofs.Text.Blank

/-!
# Words, numbers and quoted strings

The grammar of the lexemes that stand between layout, and the readers that take one from the front
of a text. What a reader takes follows the grammar. Conversely, a lexeme is taken whole when the
text does not go on with a character that may stand in a word: a word would reach over it, and so
might a number. A quoted string ends with its quote, whatever comes after.

## Main definitions

* `Clearance.Lexeme.IsWord`, `Clearance.Lexeme.IsNumber`, `Clearance.Lexeme.IsQuoted` — the grammar.
* `Clearance.Lexeme.Breaks` — texts that do not continue a word.

## Main results

* `Clearance.Lexeme.isWord_of_word?`, `Clearance.Lexeme.IsWord.word?_append` — words.
* `Clearance.Lexeme.isNumber_of_number?`, `Clearance.Lexeme.IsNumber.number?_append` — numbers.
* `Clearance.Lexeme.quoted_eq_found_iff` — quoted strings.
-/

namespace Clearance

namespace Text

theorem isNumeric_of_isDigit {c : Char} (h : c.isDigit = true) : isNumeric c = true := by
  have hc : 48 ≤ c.toNat ∧ c.toNat ≤ 57 := Char.isDigit_iff_toNat.1 h
  show inRanges ((48, 57) :: _) c.toNat = true
  rw [inRanges, if_neg (by omega), decide_eq_true hc.2, Bool.true_or]

end Text

namespace Lexeme

variable {c q : Char} {w n s r t : List Char}

/-- A text that does not go on with a character that may stand in a word. -/
def Breaks (r : List Char) : Prop := ∀ c ∈ r.head?, isWordMiddle c = false

/-- Layout continues no word. -/
theorem Layout.breaks (h : Layout s r) (hr : Breaks r) : Breaks s :=
  h.forall_head (List.all_iff_forall_prop.1 (by decide)) (by decide) hr

/-! ### Words -/

/-- The marks that may stand inside a word, but not at its end. -/
def marks : List Char := ['.', '-', '+', ':']

/-- A word: a letter or `_`, then letters, digits, `_` and marks, without a mark at the end. -/
inductive IsWord : List Char → Prop
  | intro {c : Char} {t : List Char} (hc : Text.isAlphabetic c ∨ c = '_')
      (ht : ∀ x ∈ t, Text.isAlphanumeric x ∨ x = '_' ∨ x ∈ marks)
      (hlast : ∀ x ∈ t.getLast?, x ∉ marks) : IsWord (c :: t)

theorem isWordStart_iff : isWordStart c = true ↔ Text.isAlphabetic c ∨ c = '_' := by
  simp [isWordStart]

theorem isWordMiddle_iff :
    isWordMiddle c = true ↔ Text.isAlphanumeric c ∨ c = '_' ∨ c ∈ marks := by
  simp [isWordMiddle, isWordEnd, marks, or_assoc]

/-- What may stand at the end of a word is what may stand inside and is no mark. -/
theorem isWordEnd_iff : isWordEnd c = true ↔ isWordMiddle c = true ∧ c ∉ marks := by
  have hmarks : ∀ m ∈ marks, isWordEnd m = false :=
    List.all_iff_forall_prop.1 (by decide)
  constructor
  · intro h
    refine ⟨by simp [isWordMiddle, h], fun hc => ?_⟩
    rw [hmarks c hc] at h
    cases h
  · rintro ⟨hmiddle, hmark⟩
    simpa [isWordEnd, hmark, or_assoc] using isWordMiddle_iff.1 hmiddle

theorem isWordEnd_of_isWordStart (h : isWordStart c = true) : isWordEnd c = true := by
  rcases isWordStart_iff.1 h with h | h <;> simp [isWordEnd, Text.isAlphanumeric, h]

theorem isWord_of_word? (h : word? s = some (w, r)) : IsWord w ∧ s = w ++ r := by
  cases s with
  | nil => cases h
  | cons c s =>
    rw [word?] at h
    split at h
    · next hc =>
      have hend := isWordEnd_of_isWordStart hc
      have hmiddle : isWordMiddle c = true := (isWordEnd_iff.1 hend).1
      obtain ⟨rfl, rfl⟩ := Prod.mk.inj (Option.some.inj h)
      rw [List.takeWhile_cons_of_pos hmiddle, Text.dropWhileEnd_cons_of_neg (by simpa using hend)]
      have hfront := Text.dropWhileEnd_prefix (p := (!isWordEnd ·)) (s.takeWhile isWordMiddle)
      refine ⟨.intro (isWordStart_iff.1 hc) (fun x hx => ?_) fun x hx => ?_, ?_⟩
      · have hx := List.mem_takeWhile_imp (hfront.subset hx)
        exact isWordMiddle_iff.1 hx
      · have hx := Text.getLast?_dropWhileEnd _ x hx
        exact (isWordEnd_iff.1 (by simpa using hx)).2
      · have happend := List.prefix_iff_eq_append.1 (hfront.trans (List.takeWhile_prefix _))
        rw [List.cons_append, List.length_cons, List.drop_succ_cons, happend]
    · cases h

/-- **A word is taken whole**, if the text does not go on with it. -/
theorem IsWord.word?_append (h : IsWord w) (hr : Breaks r) : word? (w ++ r) = some (w, r) := by
  obtain ⟨hc, ht, hlast⟩ := h
  next c t =>
  have hstart := isWordStart_iff.2 hc
  have hend := isWordEnd_of_isWordStart hstart
  have hmiddle : isWordMiddle c = true := (isWordEnd_iff.1 hend).1
  have hinside : ∀ x ∈ t, isWordMiddle x = true := fun x hx => isWordMiddle_iff.2 (ht x hx)
  have htake : (c :: t ++ r).takeWhile isWordMiddle = c :: t := by
    rw [List.takeWhile_append_of_pos (List.forall_mem_cons.2 ⟨hmiddle, hinside⟩),
      Text.takeWhile_of_head? hr, List.append_nil]
  have hkept : Text.dropWhileEnd (!isWordEnd ·) t = t := by
    refine Text.dropWhileEnd_of_getLast? fun x hx => ?_
    simp [isWordEnd_iff, hinside x (List.mem_of_mem_getLast? hx), hlast x hx]
  rw [List.cons_append] at htake ⊢
  rw [word?, if_pos hstart, htake, Text.dropWhileEnd_cons_of_neg (by simp [hend]), hkept]
  simp

theorem word?_eq_none (h : ∀ c ∈ s.head?, isWordStart c = false) : word? s = none := by
  cases s with
  | nil => rfl
  | cons c s => simp [word?, h c rfl]

theorem IsWord.isWordStart_head (h : IsWord w) : ∀ c ∈ (w ++ r).head?, isWordStart c = true := by
  obtain ⟨hc, -, -⟩ := h
  exact fun x hx => Option.some.inj hx ▸ isWordStart_iff.2 hc

/-! ### Numbers -/

/-- One or more ASCII digits. -/
def IsDigits (d : List Char) : Prop := d ≠ [] ∧ ∀ c ∈ d, c.isDigit = true

/-- A sign, which may be missing. -/
def IsSign (g : List Char) : Prop := g = [] ∨ g = ['+'] ∨ g = ['-']

/-- Digits, digits with a fraction, or a fraction. -/
inductive IsMantissa : List Char → Prop
  | whole {d : List Char} (hd : IsDigits d) : IsMantissa d
  | decimal {d f : List Char} (hd : IsDigits d) (hf : IsDigits f) : IsMantissa (d ++ '.' :: f)
  | fraction {f : List Char} (hf : IsDigits f) : IsMantissa ('.' :: f)

/-- An exponent, which may be missing. -/
inductive IsExponent : List Char → Prop
  | nothing : IsExponent []
  | power {e : Char} {g d : List Char} (he : e = 'e' ∨ e = 'E') (hg : IsSign g) (hd : IsDigits d) :
      IsExponent (e :: (g ++ d))

/-- A number: a sign that may be missing, a mantissa, and an exponent that may be missing. -/
inductive IsNumber : List Char → Prop
  | intro {g m e : List Char} (hg : IsSign g) (hm : IsMantissa m) (he : IsExponent e) :
      IsNumber (g ++ m ++ e)

theorem IsDigits.isDigit_head (hd : IsDigits n) : ∀ c ∈ (n ++ r).head?, c.isDigit = true := by
  obtain ⟨hne, hd⟩ := hd
  obtain ⟨c, t, rfl⟩ := List.exists_cons_of_ne_nil hne
  exact fun x hx => Option.some.inj hx ▸ hd c List.mem_cons_self

theorem isDigits_of_digits? (h : digits? s = some (n, r)) : IsDigits n ∧ s = n ++ r := by
  rw [digits?] at h
  split at h
  · cases h
  · next d ds htake =>
    obtain ⟨rfl, rfl⟩ := Prod.mk.inj (Option.some.inj h)
    refine ⟨⟨List.cons_ne_nil _ _, fun c hc => ?_⟩, ?_⟩
    · exact List.mem_takeWhile_imp (htake ▸ hc)
    · rw [← htake, List.takeWhile_append_dropWhile]

theorem IsDigits.digits?_append (hd : IsDigits n) (hr : ∀ c ∈ r.head?, c.isDigit = false) :
    digits? (n ++ r) = some (n, r) := by
  obtain ⟨hne, hd⟩ := hd
  obtain ⟨c, t, rfl⟩ := List.exists_cons_of_ne_nil hne
  rw [digits?, List.takeWhile_append_of_pos hd, List.dropWhile_append_of_pos hd,
    Text.takeWhile_of_head? hr, Text.dropWhile_of_head? hr, List.append_nil]

theorem digits?_eq_none (h : ∀ c ∈ s.head?, c.isDigit = false) : digits? s = none := by
  rw [digits?, Text.takeWhile_of_head? h]

theorem isDigits_of_fraction? (h : fraction? s = some (n, r)) :
    ∃ f, n = '.' :: f ∧ IsDigits f ∧ s = n ++ r := by
  unfold fraction? at h
  split at h
  · next s =>
    obtain ⟨⟨f, r'⟩, hf, heq⟩ := Option.map_eq_some_iff.1 h
    obtain ⟨rfl, rfl⟩ := Prod.mk.inj heq
    obtain ⟨hdigits, rfl⟩ := isDigits_of_digits? hf
    exact ⟨f, rfl, hdigits, rfl⟩
  · cases h

theorem fraction?_eq_none (h : ∀ c ∈ s.head?, c ≠ '.') : fraction? s = none := by
  cases s with
  | nil => rfl
  | cons c s =>
    have hc : c ≠ '.' := h c rfl
    simp [fraction?, hc]

theorem isMantissa_of_mantissa? (h : mantissa? s = some (n, r)) : IsMantissa n ∧ s = n ++ r := by
  unfold mantissa? at h
  split at h
  · next d u hd =>
    obtain ⟨hdigits, rfl⟩ := isDigits_of_digits? hd
    split at h
    · next f r' hf =>
      obtain ⟨rfl, rfl⟩ := Prod.mk.inj (Option.some.inj h)
      obtain ⟨f, rfl, hfdigits, rfl⟩ := isDigits_of_fraction? hf
      exact ⟨.decimal hdigits hfdigits, (List.append_assoc _ _ _).symm⟩
    · obtain ⟨rfl, rfl⟩ := Prod.mk.inj (Option.some.inj h)
      exact ⟨.whole hdigits, rfl⟩
  · obtain ⟨f, rfl, hfdigits, rfl⟩ := isDigits_of_fraction? h
    exact ⟨.fraction hfdigits, rfl⟩

theorem IsMantissa.mantissa?_append (hm : IsMantissa n)
    (hr : ∀ c ∈ r.head?, c.isDigit = false ∧ c ≠ '.') : mantissa? (n ++ r) = some (n, r) := by
  have hdigit : ∀ c ∈ r.head?, c.isDigit = false := fun c hc => (hr c hc).1
  have hpoint : ∀ c ∈ r.head?, c ≠ '.' := fun c hc => (hr c hc).2
  cases hm with
  | whole hd => rw [mantissa?, hd.digits?_append hdigit]; simp [fraction?_eq_none hpoint]
  | @decimal d f hd hf =>
    have hfraction : digits? (d ++ '.' :: (f ++ r)) = some (d, '.' :: (f ++ r)) :=
      hd.digits?_append (by simp)
    rw [List.append_assoc, List.cons_append, mantissa?, hfraction]
    simp [fraction?, hf.digits?_append hdigit]
  | @fraction f hf =>
    have hwhole : digits? ('.' :: (f ++ r)) = none := digits?_eq_none (by simp)
    rw [List.cons_append, mantissa?, hwhole]
    simp [fraction?, hf.digits?_append hdigit]

/-- A mantissa begins with a digit or a point. -/
theorem IsMantissa.head (hm : IsMantissa n) : ∀ c ∈ (n ++ r).head?, c.isDigit = true ∨ c = '.' := by
  cases hm with
  | whole hd => exact fun c hc => .inl (hd.isDigit_head c hc)
  | decimal hd hf =>
    rw [List.append_assoc]
    exact fun c hc => .inl (hd.isDigit_head c hc)
  | fraction hf => exact fun c hc => .inr (Option.some.inj hc).symm

theorem isSign_sign (s : List Char) : IsSign (sign s).1 ∧ s = (sign s).1 ++ (sign s).2 := by
  unfold sign
  split <;> simp [IsSign]

theorem IsSign.sign_append (hg : IsSign n) (hr : ∀ c ∈ r.head?, c ≠ '+' ∧ c ≠ '-') :
    sign (n ++ r) = (n, r) := by
  rcases hg with rfl | rfl | rfl
  · cases r with
    | nil => rfl
    | cons c r =>
      obtain ⟨hplus, hminus⟩ := hr c rfl
      simp [sign, hplus, hminus]
  · rfl
  · rfl

theorem isExponent_of_exponent? (h : exponent? s = some (n, r)) : IsExponent n ∧ s = n ++ r := by
  cases s with
  | nil => cases h
  | cons e s =>
    rw [exponent?] at h
    split at h
    · next he =>
      obtain ⟨⟨d, r'⟩, hd, heq⟩ := Option.map_eq_some_iff.1 h
      obtain ⟨rfl, rfl⟩ := Prod.mk.inj heq
      obtain ⟨hdigits, hrest⟩ := isDigits_of_digits? hd
      obtain ⟨hsign, hs⟩ := isSign_sign s
      refine ⟨.power (by simpa using he) hsign hdigits, ?_⟩
      rw [List.cons_append, List.append_assoc, ← hrest, ← hs]
    · cases h

theorem IsExponent.exponent?_append (he : IsExponent n) (hne : n ≠ [])
    (hr : ∀ c ∈ r.head?, c.isDigit = false) : exponent? (n ++ r) = some (n, r) := by
  cases he with
  | nothing => exact absurd rfl hne
  | @power e g d he hg hd =>
    have hsign : sign (g ++ (d ++ r)) = (g, d ++ r) := by
      refine hg.sign_append fun c hc => ?_
      have hc := hd.isDigit_head c hc
      constructor <;> rintro rfl <;> cases hc
    rw [List.cons_append, List.append_assoc, exponent?, if_pos (by simpa using he), hsign,
      hd.digits?_append hr]
    rfl

theorem exponent?_eq_none (h : ∀ c ∈ s.head?, c ≠ 'e' ∧ c ≠ 'E') : exponent? s = none := by
  cases s with
  | nil => rfl
  | cons c s => simp [exponent?, h c rfl]

theorem isNumber_of_number? (h : number? s = some (n, r)) : IsNumber n ∧ s = n ++ r := by
  obtain ⟨⟨m, u⟩, hm, heq⟩ := Option.map_eq_some_iff.1 h
  obtain ⟨hmantissa, hu⟩ := isMantissa_of_mantissa? hm
  obtain ⟨hsign, hs⟩ := isSign_sign s
  dsimp only at heq
  split at heq
  · next e r' he =>
    obtain ⟨rfl, rfl⟩ := Prod.mk.inj heq
    obtain ⟨hexponent, rfl⟩ := isExponent_of_exponent? he
    refine ⟨.intro hsign hmantissa hexponent, ?_⟩
    rw [List.append_assoc, List.append_assoc, ← hu, ← hs]
  · obtain ⟨rfl, rfl⟩ := Prod.mk.inj heq
    refine ⟨?_, by rw [List.append_assoc, ← hu, ← hs]⟩
    simpa using IsNumber.intro hsign hmantissa .nothing

/-- A text that does not continue a word does not continue a number either. -/
theorem Breaks.not_number (hr : Breaks r) :
    ∀ c ∈ r.head?, c.isDigit = false ∧ c ≠ '.' ∧ c ≠ 'e' ∧ c ≠ 'E' := by
  intro c hc
  have hmiddle := hr c hc
  refine ⟨?_, ?_, ?_, ?_⟩
  · by_contra hdigit
    have hnumeric := Text.isNumeric_of_isDigit (by simpa using hdigit)
    simp [isWordMiddle, isWordEnd, Text.isAlphanumeric, hnumeric] at hmiddle
  · rintro rfl
    cases hmiddle
  · rintro rfl
    revert hmiddle
    decide
  · rintro rfl
    revert hmiddle
    decide

/-- **A number is taken whole**, if the text does not go on with it. -/
theorem IsNumber.number?_append (h : IsNumber n) (hr : Breaks r) :
    number? (n ++ r) = some (n, r) := by
  obtain ⟨hg, hm, he⟩ := h
  next g m e =>
  have hsign : sign (g ++ (m ++ (e ++ r))) = (g, m ++ (e ++ r)) := by
    refine hg.sign_append fun c hc => ?_
    rcases hm.head c hc with hc | rfl
    · constructor <;> rintro rfl <;> cases hc
    · decide
  have hmantissa : mantissa? (m ++ (e ++ r)) = some (m, e ++ r) := by
    refine hm.mantissa?_append fun c hc => ?_
    cases he with
    | nothing => exact ⟨(hr.not_number c hc).1, (hr.not_number c hc).2.1⟩
    | power he hg hd =>
      obtain rfl := Option.some.inj hc
      rcases he with rfl | rfl <;> decide
  rw [List.append_assoc, List.append_assoc, number?, hsign, hmantissa, Option.map_some]
  dsimp only
  cases he with
  | nothing =>
    have hnone : exponent? r = none := exponent?_eq_none fun c hc => (hr.not_number c hc).2.2
    rw [List.nil_append, hnone, List.append_nil]
  | power he hg hd =>
    rw [(IsExponent.power he hg hd).exponent?_append (List.cons_ne_nil _ _)
      fun c hc => (hr.not_number c hc).1]

/-- A number begins with a digit, a point or a sign. -/
theorem IsNumber.head (h : IsNumber n) :
    ∀ c ∈ (n ++ r).head?, c.isDigit = true ∨ c = '.' ∨ c = '+' ∨ c = '-' := by
  obtain ⟨hg, hm, he⟩ := h
  rcases hg with rfl | rfl | rfl
  · rw [List.nil_append, List.append_assoc]
    exact fun c hc => (hm.head c hc).imp_right .inl
  · exact fun c hc => .inr (.inr (.inl (Option.some.inj hc).symm))
  · exact fun c hc => .inr (.inr (.inr (Option.some.inj hc).symm))

theorem number?_eq_none
    (h : ∀ c ∈ s.head?, c.isDigit = false ∧ c ≠ '.' ∧ c ≠ '+' ∧ c ≠ '-') : number? s = none := by
  have hsign : sign s = ([], s) :=
    IsSign.sign_append (n := []) (.inl rfl) fun c hc => (h c hc).2.2
  rw [number?, hsign, mantissa?, digits?_eq_none fun c hc => (h c hc).1,
    fraction?_eq_none fun c hc => (h c hc).2.1]
  rfl

/-! ### Quoted strings -/

/-- `Written q w t`: between two quotes `q`, the text `t` is written as `w`. -/
inductive Written (q : Char) : List Char → List Char → Prop
  | nothing : Written q [] []
  | plain {c : Char} {w t : List Char} (hquote : c ≠ q) (hescape : c ≠ '\\') (h : Written q w t) :
      Written q (c :: w) (c :: t)
  | lineFeed {w t : List Char} (h : Written q w t) : Written q ('\\' :: 'n' :: w) ('\n' :: t)
  | tab {w t : List Char} (h : Written q w t) : Written q ('\\' :: 't' :: w) ('\t' :: t)
  | escaped {c : Char} {w t : List Char} (hn : c ≠ 'n') (ht : c ≠ 't') (h : Written q w t) :
      Written q ('\\' :: c :: w) (c :: t)

/-- `IsQuoted w t`: the quoted string `w` has the text `t`. -/
inductive IsQuoted : List Char → List Char → Prop
  | intro {q : Char} {w t : List Char} (hq : q = '"' ∨ q = '\'') (h : Written q w t) :
      IsQuoted (q :: (w ++ [q])) t

theorem unescape_of_ne (hn : c ≠ 'n') (ht : c ≠ 't') : unescape c = c := by
  unfold unescape
  split
  · exact absurd rfl hn
  · exact absurd rfl ht
  · rfl

/-- What a backslash and a character stand for, as the grammar has it. -/
theorem Written.unescape (c : Char) (h : Written q w t) :
    Written q ('\\' :: c :: w) (unescape c :: t) := by
  unfold Lexeme.unescape
  split
  · exact .lineFeed h
  · exact .tab h
  · next hn ht => exact .escaped hn ht h

theorem quotedBody_escape (c : Char) :
    quotedBody q ('\\' :: c :: s) = (quotedBody q s).map fun (t, r) => (unescape c :: t, r) := by
  rw [quotedBody]

theorem quotedBody_plain (hquote : c ≠ q) (hescape : c ≠ '\\') :
    quotedBody q (c :: s) = (quotedBody q s).map fun (t, r) => (c :: t, r) := by
  rw [quotedBody.eq_4 _ _ _ (by simp [hescape]) (by simp [hescape]), if_neg hquote]

theorem quotedBody_close (hq : q ≠ '\\') : quotedBody q (q :: s) = some ([], s) := by
  rw [quotedBody.eq_4 _ _ _ (by simp [hq]) (by simp [hq]), if_pos rfl]

theorem written_of_quotedBody : ∀ {s t : List Char}, quotedBody q s = some (t, r) →
    ∃ w, Written q w t ∧ s = w ++ q :: r := by
  intro s
  fun_induction quotedBody q s with
  | case1 => nofun
  | case2 => nofun
  | case3 c s ih =>
    intro t h
    obtain ⟨⟨t, r'⟩, hs, heq⟩ := Option.map_eq_some_iff.1 h
    obtain ⟨rfl, rfl⟩ := Prod.mk.inj heq
    obtain ⟨w, hw, rfl⟩ := ih hs
    exact ⟨'\\' :: c :: w, hw.unescape c, rfl⟩
  | case4 s =>
    intro t h
    obtain ⟨rfl, rfl⟩ := Prod.mk.inj (Option.some.inj h)
    exact ⟨[], .nothing, rfl⟩
  | case5 c s hlast hescaped hquote ih =>
    intro t h
    have hescape : c ≠ '\\' := by
      rintro rfl
      cases s with
      | nil => exact hlast rfl rfl
      | cons d s => exact hescaped d s rfl rfl
    obtain ⟨⟨t, r'⟩, hs, heq⟩ := Option.map_eq_some_iff.1 h
    obtain ⟨rfl, rfl⟩ := Prod.mk.inj heq
    obtain ⟨w, hw, rfl⟩ := ih hs
    exact ⟨c :: w, .plain hquote hescape hw, rfl⟩

theorem Written.quotedBody_append (h : Written q w t) (hq : q ≠ '\\') :
    quotedBody q (w ++ q :: r) = some (t, r) := by
  induction h with
  | nothing => exact quotedBody_close hq
  | plain hquote hescape h ih => rw [List.cons_append, quotedBody_plain hquote hescape, ih]; rfl
  | lineFeed h ih => rw [List.cons_append, List.cons_append, quotedBody_escape, ih]; rfl
  | tab h ih => rw [List.cons_append, List.cons_append, quotedBody_escape, ih]; rfl
  | escaped hn ht h ih =>
    rw [List.cons_append, List.cons_append, quotedBody_escape, ih, unescape_of_ne hn ht]
    rfl

/-- **A quoted string is read as the text that it is written for**, whatever comes after its
quote. -/
theorem quoted_eq_found_iff : quoted s = .found t r ↔ ∃ w, IsQuoted w t ∧ s = w ++ r := by
  constructor
  · intro h
    cases s with
    | nil => cases h
    | cons q body =>
      rw [quoted] at h
      split at h
      · next hq =>
        split at h
        · next u v hbody =>
          obtain ⟨rfl, rfl⟩ := Reading.found.inj h
          obtain ⟨w, hw, rfl⟩ := written_of_quotedBody hbody
          exact ⟨_, .intro (by simpa using hq) hw, by simp⟩
        · cases h
      · cases h
  · rintro ⟨_, ⟨hq, hw⟩, rfl⟩
    next q w =>
    have hne : q ≠ '\\' := by
      rcases hq with rfl | rfl <;> decide
    rw [List.cons_append, List.append_assoc, List.singleton_append, quoted,
      if_pos (by simpa using hq), hw.quotedBody_append hne]

theorem quoted_eq_absent (h : ∀ c ∈ s.head?, c ≠ '"' ∧ c ≠ '\'') : quoted s = .absent := by
  cases s with
  | nil => rfl
  | cons c s => simp [quoted, h c rfl]

theorem IsQuoted.head (h : IsQuoted w t) : ∀ c ∈ (w ++ r).head?, c = '"' ∨ c = '\'' := by
  obtain ⟨hq, -⟩ := h
  exact fun c hc => Option.some.inj hc ▸ hq

end Lexeme

end Clearance
