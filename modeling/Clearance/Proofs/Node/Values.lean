import Clearance.Proofs.Node.Figures
import Mathlib.Data.List.TakeWhile

/-!
# Canonical forms and values

A literal of an XML Schema type for whole numbers, decimals or truth values *denotes* a value when
its text, white space at the ends left out, spells one. Canonical forms identify exactly the
literals of one type that denote one value, and denote it too. All other nodes are left as they are
and never become equal to the canonical form of a literal that denotes something.

What spells a value is said by grammars that know nothing of canonical forms. The texts of one value
differ in what `Clearance.Canonical.Figures.reduced` leaves out, and the canonical form is the text
of what is left.

## Main definitions

* `Clearance.Canonical.SpellsWhole`, `Clearance.Canonical.SpellsDecimal`,
  `Clearance.Canonical.SpellsTruth` — the grammars of the values.
* `Clearance.Node.Denotes` — the value of a literal.

## Main results

* `Clearance.Canonical.integer?_eq_some_iff`, `Clearance.Canonical.decimal?_eq_some_iff`,
  `Clearance.Canonical.boolean?_eq_some_iff` — which texts have a canonical form, and which one.
* `Clearance.Node.canonical_identifies_values`.
-/

namespace Clearance

namespace Canonical

/-! ### Grammars -/

/-- The signs of numbers, and whether they are a minus. -/
inductive IsSign : List Char → Bool → Prop where
  /-- No sign. -/
  | absent : IsSign [] false
  /-- A plus. -/
  | plus : IsSign ['+'] false
  /-- A minus. -/
  | minus : IsSign ['-'] true

/-- A text that spells a whole number: digits, with or without a sign before them. -/
inductive SpellsWhole : List Char → Figures → Prop where
  /-- A sign and digits. -/
  | mk {signed digits : List Char} {negative : Bool} (hsign : IsSign signed negative)
    (hne : digits ≠ []) (hdigits : AllDigits digits) :
    SpellsWhole (signed ++ digits) ⟨negative, digits, []⟩

/-- A text that spells a decimal: digits with at most one point among them or at their ends, with or
without a sign before them. -/
inductive SpellsDecimal : List Char → Figures → Prop where
  /-- A number without a point. -/
  | whole {s : List Char} {f : Figures} (h : SpellsWhole s f) : SpellsDecimal s f
  /-- A number with a point. -/
  | pointed {signed whole fraction : List Char} {negative : Bool} (hsign : IsSign signed negative)
    (hwhole : AllDigits whole) (hfraction : AllDigits fraction) (hne : whole ≠ [] ∨ fraction ≠ []) :
    SpellsDecimal (signed ++ (whole ++ '.' :: fraction)) ⟨negative, whole, fraction⟩

/-- A text that spells a truth value. -/
inductive SpellsTruth : List Char → Bool → Prop where
  /-- True, as a number. -/
  | one : SpellsTruth "1".toList true
  /-- True. -/
  | yes : SpellsTruth "true".toList true
  /-- False, as a number. -/
  | zero : SpellsTruth "0".toList false
  /-- False. -/
  | no : SpellsTruth "false".toList false

/-- What a literal denotes. -/
inductive SchemaValue where
  /-- A number. -/
  | number (q : ℚ)
  /-- A truth value. -/
  | truth (b : Bool)

/-- A text that spells a value of the type with a given name. -/
inductive Spells (type s : List Char) : SchemaValue → Prop where
  /-- A value of a type of whole numbers. -/
  | integer {f : Figures} (htype : type ∈ integerTypes) (h : SpellsWhole s f) :
    Spells type s (.number f.value)
  /-- A decimal. -/
  | decimal {f : Figures} (htype : type = "decimal".toList) (h : SpellsDecimal s f) :
    Spells type s (.number f.value)
  /-- A truth value. -/
  | boolean {b : Bool} (htype : type = "boolean".toList) (h : SpellsTruth s b) :
    Spells type s (.truth b)

variable {s s' out signed type : List Char} {negative b : Bool} {f g : Figures}

theorem SpellsWhole.valid (h : SpellsWhole s f) : f.Valid := by
  cases h with
  | mk hsign hne hdigits => exact ⟨hdigits, fun _ hc => absurd hc List.not_mem_nil⟩

theorem SpellsWhole.fraction_eq_nil (h : SpellsWhole s f) : f.fraction = [] := by
  cases h with
  | mk => rfl

theorem SpellsDecimal.valid (h : SpellsDecimal s f) : f.Valid := by
  cases h with
  | whole h => exact h.valid
  | pointed hsign hwhole hfraction hne => exact ⟨hwhole, hfraction⟩

theorem SpellsTruth.eq {c : Bool} (h : SpellsTruth s b) (h' : SpellsTruth s c) : b = c := by
  cases h with
  | one | yes | zero | no =>
    cases h'
    rfl

/-! ### Reading figures -/

theorem isSign_sign (negative : Bool) : IsSign (sign negative) negative := by
  cases negative with
  | false => exact .absent
  | true => exact .minus

theorem isSign_splitSign (s : List Char) :
    ∃ signed, IsSign signed (splitSign s).1 ∧ s = signed ++ (splitSign s).2 := by
  unfold splitSign
  split
  · exact ⟨['-'], .minus, rfl⟩
  · exact ⟨['+'], .plus, rfl⟩
  · exact ⟨[], .absent, rfl⟩

/-- A text that begins with neither sign comes back as it stands behind a sign. -/
theorem splitSign_append (hsign : IsSign signed negative)
    (h : ∀ c ∈ s.head?, c ≠ '-' ∧ c ≠ '+') : splitSign (signed ++ s) = (negative, s) := by
  cases hsign with
  | plus => rfl
  | minus => rfl
  | absent =>
    rw [List.nil_append]
    unfold splitSign
    split
    · next s => exact absurd rfl (h '-' rfl).1
    · next s => exact absurd rfl (h '+' rfl).2
    · rfl

/-- Digits are neither signs nor the point. -/
theorem ne_of_isDigit {c : Char} (h : c.isDigit = true) : (c ≠ '-' ∧ c ≠ '+') ∧ c ≠ '.' := by
  refine ⟨⟨?_, ?_⟩, ?_⟩
  all_goals
    rintro rfl
    cases h

/-- The figures of a text up to its first point and after it. -/
def figuresOf (s : List Char) : Figures where
  negative := (splitSign s).1
  whole := (splitSign s).2.takeWhile (· ≠ '.')
  fraction := ((splitSign s).2.dropWhile (· ≠ '.')).drop 1

/-- The figures of a text without a point. -/
def wholeFiguresOf (s : List Char) : Figures := ⟨(splitSign s).1, (splitSign s).2, []⟩

theorem spellsWhole_iff :
    SpellsWhole s f ↔ f = wholeFiguresOf s ∧ f.whole ≠ [] ∧ AllDigits f.whole := by
  constructor
  · rintro ⟨hsign, hne, hdigits⟩
    refine ⟨?_, hne, hdigits⟩
    rw [wholeFiguresOf, splitSign_append hsign fun c hc =>
      (ne_of_isDigit (hdigits c (List.mem_of_mem_head? hc))).1]
  · rintro ⟨rfl, hne, hdigits⟩
    obtain ⟨signed, hsign, hs⟩ := isSign_splitSign s
    have hspells : SpellsWhole (signed ++ (splitSign s).2) (wholeFiguresOf s) :=
      .mk hsign hne hdigits
    rwa [← hs] at hspells

/-- Up to the point and after it there are the digits between which it stands. -/
theorem figuresOf_pointed {whole fraction : List Char} (hsign : IsSign signed negative)
    (hwhole : AllDigits whole) :
    figuresOf (signed ++ (whole ++ '.' :: fraction)) = ⟨negative, whole, fraction⟩ := by
  have hhead : ∀ c ∈ (whole ++ '.' :: fraction).head?, c ≠ '-' ∧ c ≠ '+' := by
    intro c hc
    cases whole with
    | nil =>
      cases hc
      decide
    | cons d digits =>
      cases hc
      exact (ne_of_isDigit (hwhole _ List.mem_cons_self)).1
  have hpoint : ∀ c ∈ whole, decide (c ≠ '.') = true := fun c hc =>
    decide_eq_true (ne_of_isDigit (hwhole c hc)).2
  rw [figuresOf, splitSign_append hsign hhead]
  dsimp only
  rw [List.takeWhile_append_of_pos hpoint, List.dropWhile_append_of_pos hpoint]
  exact congrArg (Figures.mk negative · fraction) (List.append_nil whole)

/-- Where there is no point, all figures stand before it. -/
theorem figuresOf_eq_wholeFiguresOf (h : AllDigits (splitSign s).2) :
    figuresOf s = wholeFiguresOf s := by
  have hpoint : ∀ c ∈ (splitSign s).2, decide (c ≠ '.') = true := fun c hc =>
    decide_eq_true (ne_of_isDigit (h c hc)).2
  rw [figuresOf, wholeFiguresOf, List.takeWhile_eq_self_iff.2 hpoint,
    List.dropWhile_eq_nil_iff.2 hpoint]
  rfl

/-- After the sign there are the figures before the point, and the point with those after it if
there is one. -/
theorem splitSign_eq_figures (s : List Char) :
    ((splitSign s).2 = (figuresOf s).whole ∧ (figuresOf s).fraction = []) ∨
      (splitSign s).2 = (figuresOf s).whole ++ '.' :: (figuresOf s).fraction := by
  have hbody : (splitSign s).2 = (figuresOf s).whole ++ (splitSign s).2.dropWhile (· ≠ '.') :=
    List.takeWhile_append_dropWhile.symm
  cases hrest : (splitSign s).2.dropWhile (· ≠ '.') with
  | nil =>
    rw [hrest, List.append_nil] at hbody
    exact .inl ⟨hbody, congrArg (List.drop 1) hrest⟩
  | cons c rest =>
    have hpoint : c = '.' := by
      have hhead := List.head?_dropWhile_not (· ≠ '.') (splitSign s).2
      rw [hrest] at hhead
      simpa using hhead
    have hfraction : (figuresOf s).fraction = rest := congrArg (List.drop 1) hrest
    rw [hrest, hpoint, ← hfraction] at hbody
    exact .inr hbody

theorem spellsDecimal_iff :
    SpellsDecimal s f ↔ f = figuresOf s ∧ (f.whole ≠ [] ∨ f.fraction ≠ []) ∧ f.Valid := by
  constructor
  · intro h
    refine ⟨?_, ?_, h.valid⟩
    · cases h with
      | whole h =>
        obtain ⟨rfl, -, hdigits⟩ := spellsWhole_iff.1 h
        exact (figuresOf_eq_wholeFiguresOf hdigits).symm
      | pointed hsign hwhole hfraction hne => exact (figuresOf_pointed hsign hwhole).symm
    · cases h with
      | whole h => exact .inl (spellsWhole_iff.1 h).2.1
      | pointed hsign hwhole hfraction hne => exact hne
  · rintro ⟨rfl, hne, hwhole, hfraction⟩
    obtain ⟨signed, hsign, hs⟩ := isSign_splitSign s
    rcases splitSign_eq_figures s with ⟨hbody, hnone⟩ | hbody
    · have hfigures := figuresOf_eq_wholeFiguresOf (hbody ▸ hwhole)
      exact .whole (spellsWhole_iff.2 ⟨hfigures, hne.resolve_right (· hnone), hwhole⟩)
    · have hspells := SpellsDecimal.pointed hsign hwhole hfraction hne
      rwa [← hbody, ← hs] at hspells

instance : Decidable (SpellsDecimal s f) := decidable_of_iff _ spellsDecimal_iff.symm

/-! ### Canonical texts -/

/-- The text of a whole number. -/
def wholeText (f : Figures) : List Char := sign f.negative ++ orZero f.whole

/-- The text of a decimal. -/
def decimalText (f : Figures) : List Char :=
  sign f.negative ++ orZero f.whole ++ '.' :: orZero f.fraction

/-- The text of a truth value. -/
def truthText (b : Bool) : List Char := if b then "true".toList else "false".toList

/-- A zero is put where all digits have been dropped, and nowhere else. -/
theorem orZero_eq_zero_iff {drop : List Char → List Char} (hdrop : ∀ s, drop (drop s) = drop s)
    (hzero : drop ['0'] = []) (s : List Char) : orZero (drop s) = ['0'] ↔ drop s = [] := by
  constructor
  · intro h
    cases hs : drop s with
    | nil => rfl
    | cons c t =>
      have hself : drop s = ['0'] := by
        rw [hs] at h
        exact hs.trans h
      rw [← hs, ← hdrop s, hself, hzero]
  · intro h
    rw [h]
    rfl

theorem Figures.isZero_eq (f : Figures) : (decide (orZero (dropZeros f.whole) = ['0'])
    && decide (orZero (dropZerosEnd f.fraction) = ['0'])) = f.isZero := by
  rw [Bool.eq_iff_iff, Bool.and_eq_true, decide_eq_true_iff, decide_eq_true_iff,
    orZero_eq_zero_iff dropZeros_dropZeros rfl, orZero_eq_zero_iff dropZerosEnd_dropZerosEnd rfl,
    isZero, Bool.and_eq_true, List.isEmpty_iff, List.isEmpty_iff]

theorem integer?_of_spells (h : SpellsWhole (Text.trimBlank s) f) :
    integer? s = some (wholeText f.reduced) := by
  obtain ⟨rfl, hne, hdigits⟩ := spellsWhole_iff.1 h
  rw [integer?]
  rcases hsplit : splitSign (Text.trimBlank s) with ⟨negative, digits⟩
  simp only [wholeFiguresOf, hsplit] at hne hdigits ⊢
  rw [List.isEmpty_eq_false_iff.2 hne, List.all_eq_true.2 hdigits]
  cases hdrop : dropZeros digits with
  | nil => simp [wholeText, Figures.reduced, Figures.isZero, hdrop, dropZerosEnd, Text.dropWhileEnd,
      sign, orZero]
  | cons d ds =>
    cases negative <;> simp [wholeText, Figures.reduced, Figures.isZero, hdrop, sign, orZero]

/-- The texts that spell whole numbers have a canonical form, and no others have. -/
theorem integer?_eq_some_iff : integer? s = some out ↔
    ∃ f, SpellsWhole (Text.trimBlank s) f ∧ out = wholeText f.reduced := by
  constructor
  · intro h
    have hspells : SpellsWhole (Text.trimBlank s) (wholeFiguresOf (Text.trimBlank s)) := by
      refine spellsWhole_iff.2 ⟨rfl, ?_⟩
      unfold integer? at h
      split at h
      next negative digits hsplit =>
      split at h
      · cases h
      next hdigits =>
      simp only [Bool.or_eq_true, Bool.not_eq_true', not_or, Bool.not_eq_false] at hdigits
      rw [wholeFiguresOf, hsplit]
      exact ⟨fun h => hdigits.1 (List.isEmpty_iff.2 h), List.all_eq_true.1 hdigits.2⟩
    exact ⟨_, hspells, Option.some.inj (h.symm.trans (integer?_of_spells hspells))⟩
  · rintro ⟨f, hspells, rfl⟩
    exact integer?_of_spells hspells

theorem decimal?_of_spells (h : SpellsDecimal (Text.trimBlank s) f) :
    decimal? s = some (decimalText f.reduced) := by
  obtain ⟨rfl, hne, hwhole, hfraction⟩ := spellsDecimal_iff.1 h
  rw [decimal?]
  rcases hsplit : splitSign (Text.trimBlank s) with ⟨negative, body⟩
  simp only [figuresOf, hsplit] at hne hwhole hfraction ⊢
  have hne' : ((body.takeWhile (· ≠ '.')).isEmpty
      && ((body.dropWhile (· ≠ '.')).drop 1).isEmpty) = false := by
    rw [Bool.and_eq_false_iff, List.isEmpty_eq_false_iff, List.isEmpty_eq_false_iff]
    exact hne
  rw [hne', List.all_eq_true.2 hwhole, List.all_eq_true.2 hfraction]
  simp only [Bool.not_true, Bool.or_self, Bool.false_eq_true, if_false]
  generalize body.takeWhile (· ≠ '.') = whole
  generalize (body.dropWhile (· ≠ '.')).drop 1 = fraction
  exact congrArg (fun isZero => some (sign (negative && !isZero) ++ orZero (dropZeros whole)
    ++ '.' :: orZero (dropZerosEnd fraction))) (Figures.isZero_eq ⟨negative, whole, fraction⟩)

theorem decimal?_eq_some_iff : decimal? s = some out ↔
    ∃ f, SpellsDecimal (Text.trimBlank s) f ∧ out = decimalText f.reduced := by
  constructor
  · intro h
    have hspells : SpellsDecimal (Text.trimBlank s) (figuresOf (Text.trimBlank s)) := by
      refine spellsDecimal_iff.2 ⟨rfl, ?_⟩
      unfold decimal? at h
      split at h
      next negative body hsplit =>
      dsimp only at h
      split at h
      · cases h
      next hne =>
      split at h
      · cases h
      next hdigits =>
      simp only [Bool.or_eq_true, Bool.not_eq_true', not_or, Bool.not_eq_false] at hdigits
      rw [Bool.and_eq_true, List.isEmpty_iff, List.isEmpty_iff, not_and_or] at hne
      rw [figuresOf, hsplit]
      exact ⟨hne, List.all_eq_true.1 hdigits.1, List.all_eq_true.1 hdigits.2⟩
    exact ⟨_, hspells, Option.some.inj (h.symm.trans (decimal?_of_spells hspells))⟩
  · rintro ⟨f, hspells, rfl⟩
    exact decimal?_of_spells hspells

theorem boolean?_eq_some_iff : boolean? s = some out ↔
    ∃ b, SpellsTruth (Text.trimBlank s) b ∧ out = truthText b := by
  rw [boolean?]
  generalize Text.trimBlank s = u
  constructor
  · intro h
    split at h
    · next hu =>
      cases h
      rcases Bool.or_eq_true_iff.1 hu with hu | hu
      · exact ⟨true, of_decide_eq_true hu ▸ .one, rfl⟩
      · exact ⟨true, of_decide_eq_true hu ▸ .yes, rfl⟩
    · split at h
      · next hu =>
        cases h
        rcases Bool.or_eq_true_iff.1 hu with hu | hu
        · exact ⟨false, of_decide_eq_true hu ▸ .zero, rfl⟩
        · exact ⟨false, of_decide_eq_true hu ▸ .no, rfl⟩
      · cases h
  · rintro ⟨b, hspells, rfl⟩
    cases hspells with
    | one => rfl
    | yes => rfl
    | zero => rfl
    | no => rfl

/-! ### Canonical texts spell the same -/

theorem dropZeros_orZero (s : List Char) : dropZeros (orZero s) = dropZeros s := by
  cases s with
  | nil => rfl
  | cons c s => rfl

theorem dropZerosEnd_orZero (s : List Char) : dropZerosEnd (orZero s) = dropZerosEnd s := by
  cases s with
  | nil => rfl
  | cons c s => rfl

/-- Zeros that stand for no digits at all do not change a number. -/
theorem magnitude_orZero (whole fraction : List Char) :
    magnitude (orZero whole) fraction = magnitude whole fraction ∧
      magnitude whole (orZero fraction) = magnitude whole fraction := by
  constructor
  · rw [← magnitude_dropZeros, dropZeros_orZero, magnitude_dropZeros]
  · rw [← magnitude_dropZerosEnd, dropZerosEnd_orZero, magnitude_dropZerosEnd]

theorem spellsWhole_wholeText (hf : f.Valid) (hfraction : f.fraction = []) :
    ∃ g, SpellsWhole (wholeText f) g ∧ g.value = f.value := by
  refine ⟨_, .mk (isSign_sign f.negative) (orZero_ne_nil f.whole) (allDigits_orZero hf.1), ?_⟩
  rw [Figures.value, Figures.value, hfraction, (magnitude_orZero f.whole []).1]

theorem spellsDecimal_decimalText (hf : f.Valid) :
    ∃ g, SpellsDecimal (decimalText f) g ∧ g.value = f.value := by
  have hspells := SpellsDecimal.pointed (isSign_sign f.negative) (allDigits_orZero hf.1)
    (allDigits_orZero hf.2) (.inl (orZero_ne_nil f.whole))
  rw [← List.append_assoc] at hspells
  refine ⟨_, hspells, ?_⟩
  rw [Figures.value, Figures.value, (magnitude_orZero _ _).1, (magnitude_orZero _ _).2]

theorem spellsTruth_truthText (b : Bool) : SpellsTruth (truthText b) b := by
  cases b with
  | true => exact .yes
  | false => exact .no

/-! ### The types -/

variable {v w : SchemaValue}

/-- No type is of two kinds. -/
theorem not_mem_integerTypes :
    "decimal".toList ∉ integerTypes ∧ "boolean".toList ∉ integerTypes := by decide

theorem spells_integer_iff (htype : type ∈ integerTypes) :
    Spells type s v ↔ ∃ f, SpellsWhole s f ∧ v = .number f.value := by
  constructor
  · rintro (⟨-, h⟩ | ⟨rfl, -⟩ | ⟨rfl, -⟩)
    · exact ⟨_, h, rfl⟩
    · exact absurd htype not_mem_integerTypes.1
    · exact absurd htype not_mem_integerTypes.2
  · rintro ⟨f, h, rfl⟩
    exact .integer htype h

theorem spells_decimal_iff :
    Spells "decimal".toList s v ↔ ∃ f, SpellsDecimal s f ∧ v = .number f.value := by
  constructor
  · rintro (⟨htype, -⟩ | ⟨-, h⟩ | ⟨htype, -⟩)
    · exact absurd htype not_mem_integerTypes.1
    · exact ⟨_, h, rfl⟩
    · exact absurd htype (by decide)
  · rintro ⟨f, h, rfl⟩
    exact .decimal rfl h

theorem spells_boolean_iff :
    Spells "boolean".toList s v ↔ ∃ b, SpellsTruth s b ∧ v = .truth b := by
  constructor
  · rintro (⟨htype, -⟩ | ⟨htype, -⟩ | ⟨-, h⟩)
    · exact absurd htype not_mem_integerTypes.2
    · exact absurd htype (by decide)
    · exact ⟨_, h, rfl⟩
  · rintro ⟨b, h, rfl⟩
    exact .boolean rfl h

theorem ofType?_integer (htype : type ∈ integerTypes) : ofType? type s = integer? s := by
  rw [ofType?, if_pos (List.contains_iff_mem.2 htype)]

theorem ofType?_decimal : ofType? "decimal".toList s = decimal? s := rfl

theorem ofType?_boolean : ofType? "boolean".toList s = boolean? s := rfl

theorem ofType?_eq_none (hinteger : type ∉ integerTypes) (hdecimal : type ≠ "decimal".toList)
    (hboolean : type ≠ "boolean".toList) : ofType? type s = none := by
  rw [ofType?, if_neg (mt List.contains_iff_mem.1 hinteger), if_neg hdecimal, if_neg hboolean]

/-- A text spells one value of a type only. -/
theorem Spells.eq (hv : Spells type s v) (hw : Spells type s w) : v = w := by
  cases hv with
  | integer htype h =>
    obtain ⟨g, h', rfl⟩ := (spells_integer_iff htype).1 hw
    rw [(spellsWhole_iff.1 h).1, (spellsWhole_iff.1 h').1]
  | decimal htype h =>
    subst htype
    obtain ⟨g, h', rfl⟩ := spells_decimal_iff.1 hw
    rw [(spellsDecimal_iff.1 h).1, (spellsDecimal_iff.1 h').1]
  | boolean htype h =>
    subst htype
    obtain ⟨b, h', rfl⟩ := spells_boolean_iff.1 hw
    rw [h.eq h']

/-- What spells a value has a canonical form, which spells the value too. -/
theorem exists_ofType?_eq (h : Spells type (Text.trimBlank s) v) :
    ∃ out, ofType? type s = some out ∧ Spells type out v := by
  cases h with
  | @integer f htype h =>
    have hfraction : f.reduced.fraction = [] := congrArg dropZerosEnd h.fraction_eq_nil
    obtain ⟨g, hg, hvalue⟩ := spellsWhole_wholeText h.valid.reduced hfraction
    refine ⟨_, (ofType?_integer htype).trans (integer?_of_spells h), ?_⟩
    rw [← Figures.value_reduced h.valid, ← hvalue]
    exact .integer htype hg
  | decimal htype h =>
    subst htype
    obtain ⟨g, hg, hvalue⟩ := spellsDecimal_decimalText h.valid.reduced
    refine ⟨_, decimal?_of_spells h, ?_⟩
    rw [← Figures.value_reduced h.valid, ← hvalue]
    exact .decimal rfl hg
  | boolean htype h =>
    subst htype
    exact ⟨_, boolean?_eq_some_iff.2 ⟨_, h, rfl⟩, .boolean rfl (spellsTruth_truthText _)⟩

/-- There is no white space in what spells a value. -/
theorem Spells.isBlank_eq_false (h : Spells type s v) : ∀ c ∈ s, Text.isBlank c = false := by
  have hsign :
      ∀ {signed negative}, IsSign signed negative → ∀ c ∈ signed, Text.isBlank c = false := by
    intro signed negative hsign
    cases hsign with
    | absent => exact fun c hc => absurd hc List.not_mem_nil
    | plus | minus => exact List.forall_mem_singleton.2 rfl
  have hdigits : ∀ {digits}, AllDigits digits → ∀ c ∈ digits, Text.isBlank c = false :=
    fun hdigits c hc => Text.isBlank_of_isDigit (hdigits c hc)
  have hwhole : ∀ {s f}, SpellsWhole s f → ∀ c ∈ s, Text.isBlank c = false := by
    rintro s f ⟨hsigned, -, hall⟩
    exact List.forall_mem_append.2 ⟨hsign hsigned, hdigits hall⟩
  cases h with
  | integer htype h => exact hwhole h
  | decimal htype h =>
    cases h with
    | whole h => exact hwhole h
    | pointed hsigned hall hall' hne =>
      exact List.forall_mem_append.2 ⟨hsign hsigned, List.forall_mem_append.2
        ⟨hdigits hall, List.forall_mem_cons.2 ⟨rfl, hdigits hall'⟩⟩⟩
  | boolean htype h =>
    cases h with
    | one | yes | zero | no =>
      exact fun c hc => (Bool.not_eq_true _).mp (List.any_eq_false.1 rfl c hc)

/-- Texts of one value have one canonical form. -/
theorem ofType?_congr (h : Spells type (Text.trimBlank s) v)
    (h' : Spells type (Text.trimBlank s') v) : ofType? type s = ofType? type s' := by
  cases h with
  | integer htype h =>
    obtain ⟨g, h', hvalue⟩ := (spells_integer_iff htype).1 h'
    rw [ofType?_integer htype, ofType?_integer htype, integer?_of_spells h, integer?_of_spells h',
      (Figures.reduced_eq_reduced_iff h.valid h'.valid).2 (SchemaValue.number.inj hvalue)]
  | decimal htype h =>
    subst htype
    obtain ⟨g, h', hvalue⟩ := spells_decimal_iff.1 h'
    rw [ofType?_decimal, ofType?_decimal, decimal?_of_spells h, decimal?_of_spells h',
      (Figures.reduced_eq_reduced_iff h.valid h'.valid).2 (SchemaValue.number.inj hvalue)]
  | boolean htype h =>
    subst htype
    obtain ⟨c, h', hvalue⟩ := spells_boolean_iff.1 h'
    cases hvalue
    rw [ofType?_boolean, ofType?_boolean, boolean?_eq_some_iff.2 ⟨_, h, rfl⟩,
      boolean?_eq_some_iff.2 ⟨_, h', rfl⟩]

/-- What has a canonical form spells a value. -/
theorem exists_spells (h : ofType? type s = some out) : ∃ v, Spells type (Text.trimBlank s) v := by
  by_cases hinteger : type ∈ integerTypes
  · rw [ofType?_integer hinteger] at h
    obtain ⟨f, hf, -⟩ := integer?_eq_some_iff.1 h
    exact ⟨_, .integer hinteger hf⟩
  by_cases hdecimal : type = "decimal".toList
  · subst hdecimal
    obtain ⟨f, hf, -⟩ := decimal?_eq_some_iff.1 h
    exact ⟨_, .decimal rfl hf⟩
  by_cases hboolean : type = "boolean".toList
  · subst hboolean
    obtain ⟨b, hb, -⟩ := boolean?_eq_some_iff.1 h
    exact ⟨_, .boolean rfl hb⟩
  · rw [ofType?_eq_none hinteger hdecimal hboolean] at h
    cases h

end Canonical

/-! ### Literals -/

namespace Literal

open Canonical

variable {l m : Literal} {type type' : List Char} {v w : SchemaValue} {out : List Char}

/-- A literal of the type with a given name, whose text spells a value. White space at the ends does
not count. -/
structure Denotes (l : Literal) (type : List Char) (v : SchemaValue) : Prop where
  /-- The type is one of XML Schema. -/
  qualifier_eq : l.qualifier = .datatype (String.ofList (schemaBase ++ type))
  /-- The text spells the value. -/
  spells : Spells type (Text.trimBlank l.lexical.toList) v

theorem canonicalLexical?_eq (h : l.qualifier = .datatype (String.ofList (schemaBase ++ type))) :
    l.canonicalLexical? = ofType? type l.lexical.toList := by
  have htype : schemaBase.isPrefixOf? (schemaBase ++ type) = some type :=
    List.isPrefixOf?_eq_some_iff_append_eq.2 rfl
  simp [canonicalLexical?, h, htype]

/-- Only literals that denote something have a canonical text. -/
theorem exists_denotes (h : l.canonicalLexical? = some out) : ∃ type v, l.Denotes type v := by
  unfold canonicalLexical? at h
  split at h
  · next iri hiri =>
    obtain ⟨type, htype, hs⟩ := Option.bind_eq_some_iff.1 h
    obtain ⟨v, hv⟩ := exists_spells hs
    have hname := List.isPrefixOf?_eq_some_iff_append_eq.1 htype
    refine ⟨type, v, ?_, hv⟩
    rw [hiri, hname, String.ofList_toList]
  · cases h

theorem canonical_eq_self (h : l.canonicalLexical? = none) : l.canonical = l := by
  rw [canonical, h]

/-- All literals that denote something have a canonical text. -/
theorem Denotes.exists_canonicalLexical? (h : l.Denotes type v) :
    ∃ out, l.canonicalLexical? = some out ∧ Spells type out v := by
  rw [canonicalLexical?_eq h.qualifier_eq]
  exact exists_ofType?_eq h.spells

/-- The canonical form of a literal denotes what the literal does. -/
theorem Denotes.canonical (h : l.Denotes type v) : l.canonical.Denotes type v := by
  obtain ⟨out, hout, hspells⟩ := h.exists_canonicalLexical?
  rw [Literal.canonical, hout]
  refine ⟨h.qualifier_eq, ?_⟩
  dsimp only
  rwa [String.toList_ofList, Text.trimBlank_eq_self hspells.isBlank_eq_false]

/-- A literal denotes one value of one type only. -/
theorem Denotes.eq (hv : l.Denotes type v) (hw : l.Denotes type' w) : type = type' ∧ v = w := by
  have hname : String.ofList (schemaBase ++ type) = String.ofList (schemaBase ++ type') :=
    Qualifier.datatype.inj (hv.qualifier_eq.symm.trans hw.qualifier_eq)
  obtain rfl : type = type' := List.append_cancel_left (String.ofList_injective hname)
  exact ⟨rfl, hv.spells.eq hw.spells⟩

theorem canonical_eq_iff (hv : l.Denotes type v) (hw : m.Denotes type' w) :
    l.canonical = m.canonical ↔ type = type' ∧ v = w := by
  constructor
  · intro h
    exact hv.canonical.eq (h ▸ hw.canonical)
  · rintro ⟨rfl, rfl⟩
    have htext : l.canonicalLexical? = m.canonicalLexical? := by
      rw [canonicalLexical?_eq hv.qualifier_eq, canonicalLexical?_eq hw.qualifier_eq]
      exact ofType?_congr hv.spells hw.spells
    obtain ⟨out, hout, -⟩ := hv.exists_canonicalLexical?
    rw [canonical, canonical, ← htext, hout]
    dsimp only
    rw [hv.qualifier_eq, hw.qualifier_eq]

end Literal

/-! ### Nodes -/

namespace Node

open Canonical

/-- A literal of the type with a given name that denotes a value, as a node. -/
def Denotes (n : Node) (type : List Char) (v : SchemaValue) : Prop :=
  ∃ l : Literal, n = .literal l ∧ l.Denotes type v

variable {n m : Node} {type type' : List Char} {v w : SchemaValue}

theorem Denotes.canonical (h : n.Denotes type v) : n.canonical.Denotes type v := by
  obtain ⟨l, rfl, h⟩ := h
  exact ⟨_, rfl, h.canonical⟩

theorem canonical_eq_iff (hv : n.Denotes type v) (hw : m.Denotes type' w) :
    n.canonical = m.canonical ↔ type = type' ∧ v = w := by
  obtain ⟨l, rfl, hv⟩ := hv
  obtain ⟨l', rfl, hw⟩ := hw
  rw [← Literal.canonical_eq_iff hv hw]
  exact ⟨Node.literal.inj, congrArg Node.literal⟩

/-- A node that denotes nothing stays as it is. -/
theorem canonical_eq_self (h : ∀ type v, ¬ n.Denotes type v) : n.canonical = n := by
  cases n with
  | literal l =>
    cases htext : l.canonicalLexical? with
    | none => exact congrArg Node.literal (Literal.canonical_eq_self htext)
    | some out =>
      obtain ⟨type, v, hl⟩ := Literal.exists_denotes htext
      exact absurd ⟨l, rfl, hl⟩ (h type v)
  | uri | blank | any => rfl

/-- **Canonical forms identify exactly equal values.** Of two literals that denote something, the
canonical forms are equal if and only if the literals have one type and denote one value; the
canonical form of a literal has its type and denotes its value. Every other node is its own
canonical form, and no literal that denotes something has the same one. A canonical form is its own
canonical form. -/
theorem canonical_identifies_values :
    (∀ (n m : Node) (type type' : List Char) (v w : SchemaValue), n.Denotes type v →
      m.Denotes type' w → (n.canonical = m.canonical ↔ type = type' ∧ v = w)) ∧
    (∀ (n : Node) (type : List Char) (v : SchemaValue), n.Denotes type v →
      n.canonical.Denotes type v) ∧
    (∀ n : Node, (∀ type v, ¬ n.Denotes type v) → n.canonical = n ∧
      ∀ (m : Node) (type : List Char) (v : SchemaValue), m.Denotes type v →
        m.canonical ≠ n.canonical) ∧
    ∀ n : Node, n.canonical.canonical = n.canonical := by
  refine ⟨fun n m type type' v w => canonical_eq_iff, fun n type v => Denotes.canonical,
    fun n h => ⟨canonical_eq_self h, ?_⟩, canonical_canonical⟩
  intro m type v hm heq
  rw [canonical_eq_self h] at heq
  exact h type v (heq ▸ hm.canonical)

/-- A literal of the type of decimals. -/
def decimal (text : String) : Node :=
  literal ⟨text, .datatype (String.ofList (schemaBase ++ "decimal".toList))⟩

theorem denotes_decimal (text : String) (f : Figures)
    (h : SpellsDecimal (Text.trimBlank text.toList) f) :
    (decimal text).Denotes "decimal".toList (.number f.value) :=
  ⟨_, rfl, rfl, .decimal rfl h⟩

/-- A text that spells no decimal denotes nothing. -/
theorem not_denotes_decimal (text : String) (h : decimal? text.toList = none) (type : List Char)
    (v : SchemaValue) : ¬ (decimal text).Denotes type v := by
  rintro ⟨l, hl, hv⟩
  obtain ⟨out, hout, -⟩ := hv.exists_canonicalLexical?
  rw [← Node.literal.inj hl, Literal.canonicalLexical?_eq rfl, ofType?_decimal, h] at hout
  cases hout

/-- A decimal with a sign, white space and needless zeros, the same number without them, its
negative, and a number with an exponent, which is no decimal. -/
theorem canonical_identifies_decimals :
    (decimal "\t+007.50 ").canonical = (decimal "7.5").canonical ∧
      (decimal "-7.5").canonical ≠ (decimal "7.5").canonical ∧
      (decimal "75e-1").canonical = decimal "75e-1" ∧
      (decimal "7.5").canonical ≠ (decimal "75e-1").canonical := by
  obtain ⟨hequal, -, hother, -⟩ := canonical_identifies_values
  have hlong := denotes_decimal "\t+007.50 " ⟨false, ['0', '0', '7'], ['5', '0']⟩ (by decide)
  have hshort := denotes_decimal "7.5" ⟨false, ['7'], ['5']⟩ (by decide)
  have hnegative := denotes_decimal "-7.5" ⟨true, ['7'], ['5']⟩ (by decide)
  have hnone := not_denotes_decimal "75e-1" (by decide)
  refine ⟨(hequal _ _ _ _ _ _ hlong hshort).2 ⟨rfl, ?_⟩, fun h => ?_, (hother _ hnone).1,
    (hother _ hnone).2 _ _ _ hshort⟩
  · exact congrArg SchemaValue.number
      ((Figures.reduced_eq_reduced_iff (by decide) (by decide)).1 (by decide))
  · have hvalue := ((hequal _ _ _ _ _ _ hnegative hshort).1 h).2
    have hreduced := (Figures.reduced_eq_reduced_iff (by decide) (by decide)).2
      (SchemaValue.number.inj hvalue)
    exact absurd hreduced (by decide)

end Node

end Clearance
