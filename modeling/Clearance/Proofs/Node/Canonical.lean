import Clearance.Node.Canonical
import Clearance.Proofs.Text.Blank

/-!
# Canonical forms are canonical

The canonical form of a literal has no white space at its ends, no needless sign and no needless
zeros, so that nothing is left to be changed: the canonical form of a canonical form is the form
itself. A pattern that a store gives back can therefore be added again and is kept under the same
name.

## Main results

* `Clearance.Canonical.integer?_eq_self`, `Clearance.Canonical.decimal?_eq_self` — what stays.
* `Clearance.Triple.canonical_canonical`.
-/

namespace Clearance

/-! ### White space -/

namespace Text

variable {s : List Char}

theorem isBlank_of_isDigit {c : Char} (h : c.isDigit = true) : isBlank c = false := by
  have hrange : 48 ≤ c.toNat ∧ c.toNat ≤ 57 := by
    simpa [Char.isDigit, UInt32.le_iff_toNat_le] using h
  simp only [isBlank, blankRanges, inRanges]
  grind

/-- A text of digits, signs and points has no white space at its ends. -/
theorem trimBlank_eq_self (h : ∀ c ∈ s, isBlank c = false) : trimBlank s = s := by
  have hfront : s.dropWhile isBlank = s :=
    dropWhile_of_head? fun c hc => h c (List.mem_of_mem_head? hc)
  rw [trimBlank, hfront, dropWhileEnd_of_getLast? fun c hc => h c (List.mem_of_mem_getLast? hc)]

end Text

/-! ### Numbers -/

namespace Canonical

variable {s out digits whole fraction type : List Char}

/-- The sign of a number. -/
def sign (negative : Bool) : List Char := if negative then ['-'] else []

/-- A text of digits. -/
def AllDigits (s : List Char) : Prop := ∀ c ∈ s, c.isDigit = true

theorem splitSign_sign (negative : Bool) (hne : digits ≠ []) (h : AllDigits digits)
    (rest : List Char) :
    splitSign (sign negative ++ digits ++ rest) = (negative, digits ++ rest) := by
  cases negative with
  | true => rfl
  | false =>
    cases digits with
    | nil => exact absurd rfl hne
    | cons d ds =>
      have hd := h d List.mem_cons_self
      show splitSign (d :: (ds ++ rest)) = _
      unfold splitSign
      split
      · next heq =>
        cases heq
        cases hd
      · next heq =>
        cases heq
        cases hd
      · rfl

/-- There are no zeros left in front. -/
theorem dropZeros_dropZeros (s : List Char) : dropZeros (dropZeros s) = dropZeros s := by
  have hhead := List.head?_dropWhile_not (· = '0') s
  unfold dropZeros
  cases hdrop : s.dropWhile (· = '0') with
  | nil => rfl
  | cons c t =>
    rw [hdrop] at hhead
    exact List.dropWhile_cons_of_neg (by simpa using hhead)

theorem allDigits_dropZeros (h : AllDigits digits) : AllDigits (dropZeros digits) :=
  fun c hc => h c ((List.dropWhile_sublist _).subset hc)

theorem orZero_ne_nil (s : List Char) : orZero s ≠ [] := by
  cases s with
  | nil => exact List.cons_ne_nil _ _
  | cons c s => exact List.cons_ne_nil _ _

theorem allDigits_orZero (h : AllDigits digits) : AllDigits (orZero digits) := by
  cases digits with
  | nil =>
    intro c hc
    cases List.mem_singleton.1 hc
    rfl
  | cons c s => exact h

/-- A zero that stands for no digits at all stays when zeros are dropped again. -/
theorem orZero_orZero {drop : List Char → List Char} (hdrop : ∀ s, drop (drop s) = drop s)
    (hzero : drop ['0'] = []) (s : List Char) :
    orZero (drop (orZero (drop s))) = orZero (drop s) := by
  cases hs : drop s with
  | nil => exact congrArg orZero hzero
  | cons c t =>
    show orZero (drop (c :: t)) = orZero (c :: t)
    rw [← hs, hdrop]

/-- Digits, with a sign before them and a point among them, are no white space. -/
theorem isBlank_eq_false {c : Char} (h : c.isDigit = true ∨ c = '-' ∨ c = '.') :
    Text.isBlank c = false := by
  rcases h with h | rfl | rfl
  · exact Text.isBlank_of_isDigit h
  · rfl
  · rfl

theorem of_mem_sign {negative : Bool} {c : Char} (h : c ∈ sign negative) : c = '-' := by
  cases negative with
  | true => exact List.mem_singleton.1 h
  | false => cases h

/-- A whole number without needless zeros stays as it is. -/
theorem integer?_eq_self (negative : Bool) (hne : digits ≠ []) (h : AllDigits digits)
    (hzeros : dropZeros digits = digits) :
    integer? (sign negative ++ digits) = some (sign negative ++ digits) := by
  have htrim : Text.trimBlank (sign negative ++ digits) = sign negative ++ digits :=
    Text.trimBlank_eq_self fun c hc => isBlank_eq_false <|
      (List.mem_append.1 hc).elim (fun hc => .inr (.inl (of_mem_sign hc))) fun hc => .inl (h c hc)
  have hsplit := splitSign_sign negative hne h []
  have hall : digits.all Char.isDigit = true := List.all_eq_true.2 h
  rw [List.append_nil, List.append_nil] at hsplit
  rw [integer?, htrim, hsplit]
  simp only [List.isEmpty_eq_false_iff.2 hne, hall, Bool.not_true, Bool.or_self, Bool.false_eq_true,
    if_false, hzeros]
  cases digits with
  | nil => exact absurd rfl hne
  | cons d ds => cases negative <;> rfl

theorem integer?_integer? (h : integer? s = some out) : integer? out = some out := by
  unfold integer? at h
  split at h
  next negative digits _ =>
  split at h
  · cases h
  next hdigits =>
  simp only [Bool.or_eq_true, Bool.not_eq_true', not_or, Bool.not_eq_false] at hdigits
  have hall : AllDigits (dropZeros digits) := allDigits_dropZeros (List.all_eq_true.1 hdigits.2)
  split at h
  · cases h
    rfl
  · next hne =>
    have hkeep := integer?_eq_self negative hne hall (dropZeros_dropZeros digits)
    have hout : sign negative ++ dropZeros digits = out := by
      cases negative <;> exact Option.some.inj h
    rwa [hout] at hkeep

/-- A decimal without needless zeros stays as it is. Zero has no sign. -/
theorem decimal?_eq_self (negative : Bool) (hwhole : AllDigits whole)
    (hfraction : AllDigits fraction) (hne : whole ≠ []) (hzeros : orZero (dropZeros whole) = whole)
    (hzeros' : orZero (Text.dropWhileEnd (· = '0') fraction) = fraction)
    (hsign : negative = true → (whole = ['0'] && fraction = ['0']) = false) :
    decimal? (sign negative ++ whole ++ '.' :: fraction)
      = some (sign negative ++ whole ++ '.' :: fraction) := by
  have hblank : ∀ c ∈ sign negative ++ whole ++ '.' :: fraction, Text.isBlank c = false := by
    intro c hc
    refine isBlank_eq_false ?_
    rcases List.mem_append.1 hc with hc | hc
    · rcases List.mem_append.1 hc with hc | hc
      · exact .inr (.inl (of_mem_sign hc))
      · exact .inl (hwhole c hc)
    · rcases List.mem_cons.1 hc with rfl | hc
      · exact .inr (.inr rfl)
      · exact .inl (hfraction c hc)
  have hpoint : ∀ c ∈ whole, decide (c ≠ '.') = true := by
    intro c hc
    have hdigit := hwhole c hc
    refine decide_eq_true ?_
    rintro rfl
    cases hdigit
  have hfront : (whole ++ '.' :: fraction).takeWhile (· ≠ '.') = whole := by
    rw [List.takeWhile_append_of_pos hpoint]
    exact List.append_nil whole
  have hback : ((whole ++ '.' :: fraction).dropWhile (· ≠ '.')).drop 1 = fraction := by
    rw [List.dropWhile_append_of_pos hpoint]
    rfl
  rw [decimal?, Text.trimBlank_eq_self hblank, splitSign_sign negative hne hwhole]
  simp only [hfront, hback, List.isEmpty_eq_false_iff.2 hne, List.all_eq_true.2 hwhole,
    List.all_eq_true.2 hfraction, hzeros, hzeros', Bool.false_and, Bool.not_true, Bool.or_self,
    Bool.false_eq_true, if_false]
  cases negative with
  | false => rfl
  | true =>
    rw [hsign rfl]
    rfl

theorem decimal?_decimal? (h : decimal? s = some out) : decimal? out = some out := by
  unfold decimal? at h
  split at h
  next negative body _ =>
  dsimp only at h
  split at h
  · cases h
  split at h
  · cases h
  next hdigits =>
  simp only [Bool.or_eq_true, Bool.not_eq_true', not_or, Bool.not_eq_false] at hdigits
  have hwhole : AllDigits (dropZeros (body.takeWhile (· ≠ '.'))) :=
    allDigits_dropZeros (List.all_eq_true.1 hdigits.1)
  have hfraction : AllDigits (Text.dropWhileEnd (· = '0') ((body.dropWhile (· ≠ '.')).drop 1)) :=
    fun c hc => List.all_eq_true.1 hdigits.2 c ((Text.dropWhileEnd_prefix _).subset hc)
  cases h
  refine decimal?_eq_self _ (allDigits_orZero hwhole) (allDigits_orZero hfraction)
    (orZero_ne_nil _) (orZero_orZero dropZeros_dropZeros rfl _)
    (orZero_orZero (Text.dropWhileEnd_dropWhileEnd _) rfl _) fun hsign => ?_
  exact (Bool.not_eq_true' _).mp (Bool.and_eq_true_iff.1 hsign).2

theorem boolean?_boolean? (h : boolean? s = some out) : boolean? out = some out := by
  unfold boolean? at h
  dsimp only at h
  split at h
  · cases h
    rfl
  · split at h
    · cases h
      rfl
    · cases h

theorem ofType?_ofType? (h : ofType? type s = some out) : ofType? type out = some out := by
  unfold ofType? at h ⊢
  split
  · next htype =>
    rw [if_pos htype] at h
    exact integer?_integer? h
  · next htype =>
    rw [if_neg htype] at h
    split
    · next htype' =>
      rw [if_pos htype'] at h
      exact decimal?_decimal? h
    · next htype' =>
      rw [if_neg htype'] at h
      split
      · next htype'' =>
        rw [if_pos htype''] at h
        exact boolean?_boolean? h
      · next htype'' =>
        rw [if_neg htype''] at h
        cases h

end Canonical

/-! ### Literals, nodes and triples -/

theorem Literal.canonical_canonical (l : Literal) : l.canonical.canonical = l.canonical := by
  cases htext : l.canonicalLexical? with
  | none =>
    have hself : l.canonical = l := by rw [canonical, htext]
    rw [hself, hself]
  | some s =>
    have hself : l.canonical = { l with lexical := String.ofList s } := by rw [canonical, htext]
    have hkeep : l.canonical.canonicalLexical? = some s := by
      rw [hself]
      unfold canonicalLexical? at htext ⊢
      dsimp only
      split at htext
      · next iri hiri =>
        obtain ⟨type, htype, hs⟩ := Option.bind_eq_some_iff.1 htext
        exact Option.bind_eq_some_iff.2 ⟨type, htype, by
          rw [String.toList_ofList]
          exact Canonical.ofType?_ofType? hs⟩
      · cases htext
    rw [canonical, hkeep, hself]

theorem Node.canonical_canonical (n : Node) : n.canonical.canonical = n.canonical := by
  cases n with
  | literal l => exact congrArg Node.literal l.canonical_canonical
  | _ => rfl

/-- **The canonical form of a canonical form** is the form itself. -/
theorem Triple.canonical_canonical (t : Triple) : t.canonical.canonical = t.canonical :=
  congrArg (Triple.mk t.s t.p) t.o.canonical_canonical

end Clearance
