import Clearance.Expr.Reader
import Clearance.Proofs.Lexeme.Token

/-!
# Attributes, constants and comparisons

The grammar of what stands between connectives: the name of an attribute, and a comparison with a
constant that may follow it. Each sort of item has a relation between its written form and what it
stands for, and the reader of that sort finds an item exactly if one is written at the front of the
text.

The readers take the first item that fits, in a fixed order. That loses nothing, as the first
character tells the items apart: a word begins with a letter or `_`, a number with a digit, a point
or a sign, a quoted string with a quote. Only comparisons need a second look, as `<` begins `<=`;
but no constant begins with the `=` that would then be left.

## Main definitions

* `Clearance.Grammar.IsAttribute`, `Clearance.Grammar.IsConstant`, `Clearance.Operator.spellings` —
  the grammar of the items.
* `Clearance.Grammar.IsRelation` — an attribute with the comparison that may follow it.

## Main results

* `Clearance.Grammar.isAttribute_of_attributeName`,
  `Clearance.Grammar.IsAttribute.attributeName_append`
* `Clearance.Grammar.isConstant_of_value`, `Clearance.Grammar.IsConstant.value_append`
* `Clearance.Grammar.isRelation_of_relation`, `Clearance.Grammar.IsRelation.relation_eq_found`
-/

namespace Clearance

/-- The signs of a comparison. -/
def Operator.spellings : Operator → List (List Char)
  | .eq => [['=', '='], ['=']]
  | .ne => [['!', '=']]
  | .lt => [['<']]
  | .le => [['<', '=']]
  | .gt => [['>']]
  | .ge => [['>', '=']]

namespace Reading

variable {α β : Type} {f : α → β} {x : Reading α} {k : α → List Char → Reading β} {b : β}
  {s r : List Char}

theorem map_eq_found : x.map f = .found b r ↔ ∃ a, x = .found a r ∧ f a = b := by
  cases x <;> grind [Reading.map]

theorem bind_eq_found : x.bind k = .found b r ↔ ∃ a t, x = .found a t ∧ k a t = .found b r := by
  cases x <;> simp [Reading.bind, and_assoc]

theorem orElse_eq_found {other : Unit → Reading α} {a : α} :
    x.orElse other = .found a r ↔ x = .found a r ∨ x = .absent ∧ other () = .found a r := by
  cases x <;> simp [Reading.orElse]

theorem ofOption_eq_found {o : Option (α × List Char)} {a : α} :
    Reading.ofOption o = .found a r ↔ o = some (a, r) := by
  cases o <;> simp [Reading.ofOption, Prod.ext_iff]

theorem optional_eq_found {o : Option α} :
    x.optional s = .found o r ↔
      (∃ a, x = .found a r ∧ o = some a) ∨ x = .absent ∧ o = none ∧ r = s := by
  cases x <;> simp [Reading.optional, eq_comm, and_assoc, and_comm]

end Reading

namespace Grammar

open Lexeme

variable {a : Attribute} {v : Value} {op : Operator} {e : Expr} {c : Char}
  {w n s r t u : List Char}

/-! ### Whole texts -/

theorem closeLayout_eq_found {α : Type} {x : Reading α} {i : α} :
    closeLayout x = .found i r ↔ ∃ t, x = .found i t ∧ skipLayout t = r := by
  cases x <;> simp [closeLayout, and_assoc]

theorem whole_eq_ok {α : Type} {x : Reading α} {i : α} {expected : Expected} :
    whole s t expected x = .ok i ↔ x = .found i [] := by
  unfold whole
  split <;> simp_all

/-! ### The grammar -/

/-- `IsName w n`: the name `n` is written as `w`, as a word or in quotes. -/
inductive IsName : List Char → List Char → Prop
  | word {w : List Char} (h : IsWord w) : IsName w w
  | quoted {w n : List Char} (h : IsQuoted w n) : IsName w n

/-- `IsAttribute w a`: the attribute `a`, which is not named like a truth value, is written as
`w`. -/
def IsAttribute (w : List Char) (a : Attribute) : Prop :=
  IsName w a.toList ∧ a ≠ "true" ∧ a ≠ "false"

/-- `Means t v`: the text `t` stands for the value `v`, a truth value if the text spells one in
capital or small letters. -/
inductive Means : List Char → Value → Prop
  | flag {t : List Char} {b : Bool} (h : lowered t = flagChars b) : Means t (.flag b)
  | text {t : List Char} (h : ∀ b, lowered t ≠ flagChars b) : Means t (.text (String.ofList t))

/-- `IsConstant w v`: the value `v` is written as `w`: in quotes, as a number or as a word. -/
inductive IsConstant : List Char → Value → Prop
  | quoted {w t : List Char} {v : Value} (h : IsQuoted w t) (hv : Means t v) : IsConstant w v
  | number {w : List Char} {v : Value} (h : IsNumber w) (hv : Means w v) : IsConstant w v
  | word {w : List Char} {v : Value} (h : IsWord w) (hv : Means w v) : IsConstant w v

/-- `IsRelation s e r`: the text `s` is an attribute, with a comparison that may follow it, and then
`r`; together they spell `e`. -/
inductive IsRelation : List Char → Expr → List Char → Prop
  | holds {w : List Char} {a : Attribute} (r : List Char) (ha : IsAttribute w a) :
      IsRelation (w ++ r) (.holds a) r
  | compares {w s o t u r : List Char} {a : Attribute} {op : Operator} {v : Value}
      (ha : IsAttribute w a) (hs : Layout s (o ++ t)) (ho : o ∈ op.spellings)
      (ht : Layout t (u ++ r)) (hv : IsConstant u v) : IsRelation (w ++ s) (.relation a op v) r

/-! ### First characters -/

theorem not_alphabetic_of_toNat (h : c.toNat < 65) : Text.isAlphabetic c = false := by
  show Text.inRanges ((65, 90) :: _) c.toNat = false
  rw [Text.inRanges, if_pos h]

/-- No character that a number may begin with is one that a word may begin with. -/
theorem isWordStart_of_number (h : c.isDigit = true ∨ c = '.' ∨ c = '+' ∨ c = '-') :
    isWordStart c = false := by
  rcases h with hdigit | rfl | rfl | rfl
  · have hc : 48 ≤ c.toNat ∧ c.toNat ≤ 57 := Char.isDigit_iff_toNat.1 hdigit
    have hne : c ≠ '_' := by
      rintro rfl
      exact absurd hc (by decide)
    simp [isWordStart, not_alphabetic_of_toNat (show c.toNat < 65 by omega), hne]
  · decide
  · decide
  · decide

theorem IsName.head (h : IsName w n) :
    ∀ c ∈ (w ++ r).head?, isWordStart c = true ∨ c = '"' ∨ c = '\'' := by
  cases h with
  | word h => exact fun c hc => .inl (h.isWordStart_head c hc)
  | quoted h => exact fun c hc => .inr (h.head c hc)

/-- No constant begins with layout, or with the sign `=`. -/
theorem IsConstant.head (h : IsConstant w v) :
    ∀ c ∈ (w ++ r).head?, (c ∉ spaces ∧ c ≠ '#') ∧ c ≠ '=' := by
  have hnone : ∀ x ∈ ['#', '=', ' ', '\t', '\n', '\r'],
      isWordStart x = false ∧ ¬(x.isDigit = true ∨ x = '.' ∨ x = '+' ∨ x = '-') ∧
        ¬(x = '"' ∨ x = '\'') := List.all_iff_forall_prop.1 (by decide)
  suffices hmem : ∀ c ∈ (w ++ r).head?, c ∉ ['#', '=', ' ', '\t', '\n', '\r'] by
    intro c hc
    have hmem := hmem c hc
    simp only [List.mem_cons, not_or] at hmem
    simp [spaces, hmem]
  intro c hc hmem
  obtain ⟨hword, hnumber, hquote⟩ := hnone c hmem
  cases h with
  | quoted h hv => exact hquote (h.head c hc)
  | number h hv => exact hnumber (h.head c hc)
  | word h hv => exact Bool.false_ne_true (hword.symm.trans (h.isWordStart_head c hc))

/-! ### Attributes -/

theorem isName_of_name (h : name s = .found n r) : ∃ w, IsName w n ∧ s = w ++ r := by
  rcases Reading.orElse_eq_found.1 h with h | ⟨-, h⟩
  · obtain ⟨hw, rfl⟩ := isWord_of_word? (Reading.ofOption_eq_found.1 h)
    exact ⟨n, .word hw, rfl⟩
  · obtain ⟨w, hw, rfl⟩ := quoted_eq_found_iff.1 h
    exact ⟨w, .quoted hw, rfl⟩

theorem IsName.name_append (h : IsName w n) (hr : Breaks r) : name (w ++ r) = .found n r := by
  cases h with
  | word h => rw [name, h.word?_append hr]; rfl
  | quoted h =>
    have hword : word? (w ++ r) = none := by
      refine word?_eq_none fun c hc => ?_
      rcases h.head c hc with rfl | rfl <;> decide
    rw [name, hword]
    exact quoted_eq_found_iff.2 ⟨w, h, rfl⟩

theorem isKeyword_toList : isKeyword a.toList = false ↔ a ≠ "true" ∧ a ≠ "false" := by
  have hflag : ∀ b, a.toList = flagChars b ↔ a = String.ofList (flagChars b) := fun b =>
    ⟨fun h => by rw [← h, String.ofList_toList], fun h => by rw [h, String.toList_ofList]⟩
  rw [isKeyword, Bool.or_eq_false_iff, decide_eq_false_iff_not, decide_eq_false_iff_not,
    hflag, hflag]
  rfl

theorem isAttribute_of_attributeName (h : attributeName s = .found a r) :
    ∃ w, IsAttribute w a ∧ s = w ++ r := by
  obtain ⟨n, t, hname, h⟩ := Reading.bind_eq_found.1 h
  split at h
  · cases h
  · next hkeyword =>
    obtain ⟨rfl, rfl⟩ := Reading.found.inj h
    obtain ⟨w, hw, rfl⟩ := isName_of_name hname
    refine ⟨w, ⟨?_, isKeyword_toList.1 ?_⟩, rfl⟩
    · rwa [String.toList_ofList]
    · rw [String.toList_ofList]
      exact Bool.eq_false_iff.2 hkeyword

theorem IsAttribute.attributeName_append (h : IsAttribute w a) (hr : Breaks r) :
    attributeName (w ++ r) = .found a r := by
  obtain ⟨hname, hkeyword⟩ := h
  rw [attributeName, hname.name_append hr, Reading.bind, isKeyword_toList.2 hkeyword,
    String.ofList_toList]
  rfl

/-! ### Constants -/

theorem flagChars_injective {b b' : Bool} (h : flagChars b = flagChars b') : b = b' := by
  revert b b'
  decide

/-- **What a text stands for**, as the reader has it. -/
theorem means_iff : Means t v ↔ v = Value.ofChars t := by
  have hflag : flag? t = none ∨ ∃ b, flag? t = some b ∧ lowered t = flagChars b := by
    unfold flag?
    split
    · next h => exact .inr ⟨true, rfl, h⟩
    split
    · next h => exact .inr ⟨false, rfl, h⟩
    · exact .inl rfl
  have hnone : flag? t = none → ∀ b, lowered t ≠ flagChars b := by
    intro h b hb
    cases b <;> simp [flag?, hb, flagChars] at h
  rcases hflag with hflag | ⟨b, hflag, hb⟩
  · simp only [Value.ofChars, hflag]
    constructor
    · rintro (hb | -)
      · exact absurd hb (hnone hflag _)
      · rfl
    · rintro rfl
      exact .text (hnone hflag)
  · simp only [Value.ofChars, hflag]
    constructor
    · rintro (hb' | hnone)
      · rw [flagChars_injective (hb'.symm.trans hb)]
      · exact absurd hb (hnone b)
    · rintro rfl
      exact .flag hb

theorem toLower_of_isDigit (h : c.isDigit = true) : c.toLower = c := by
  have hc : c.toNat ≤ 57 := (Char.isDigit_iff_toNat.1 h).2
  refine dif_neg ?_
  rintro ⟨hcapital, -⟩
  have hcapital : 65 ≤ c.toNat := UInt32.le_iff_toNat_le.1 hcapital
  omega

/-- A number spells no truth value. -/
theorem lowered_ne_of_isNumber (h : IsNumber n) (b : Bool) : lowered n ≠ flagChars b := by
  intro hb
  cases n with
  | nil => cases b <;> cases hb
  | cons c n =>
    have hletter : c.toLower = 't' ∨ c.toLower = 'f' := by
      cases b with
      | false => exact .inr (List.cons.inj hb).1
      | true => exact .inl (List.cons.inj hb).1
    have hlower : c.toLower = c := by
      rcases h.head (r := []) c rfl with hdigit | rfl | rfl | rfl
      · exact toLower_of_isDigit hdigit
      all_goals rfl
    have hhead := h.head (r := []) c rfl
    rw [hlower] at hletter
    rcases hletter with rfl | rfl <;> revert hhead <;> decide

theorem isConstant_of_value (h : value s = .found v r) : ∃ w, IsConstant w v ∧ s = w ++ r := by
  rcases Reading.orElse_eq_found.1 h with h | ⟨-, h⟩
  · obtain ⟨t, h, hv⟩ := Reading.map_eq_found.1 h
    obtain ⟨w, hw, rfl⟩ := quoted_eq_found_iff.1 h
    exact ⟨w, .quoted hw (means_iff.2 hv.symm), rfl⟩
  split at h
  · next n u hn =>
    obtain ⟨rfl, rfl⟩ := Reading.found.inj h
    obtain ⟨hnumber, rfl⟩ := isNumber_of_number? hn
    exact ⟨n, .number hnumber (.text (lowered_ne_of_isNumber hnumber)), rfl⟩
  · obtain ⟨w, h, hv⟩ := Reading.map_eq_found.1 h
    obtain ⟨hw, rfl⟩ := isWord_of_word? (Reading.ofOption_eq_found.1 h)
    exact ⟨w, .word hw (means_iff.2 hv.symm), rfl⟩

/-- **A constant is taken whole**, if the text does not go on with it. -/
theorem IsConstant.value_append (h : IsConstant w v) (hr : Breaks r) :
    value (w ++ r) = .found v r := by
  cases h with
  | quoted h hv =>
    rw [value, quoted_eq_found_iff.2 ⟨w, h, rfl⟩, means_iff.1 hv]
    rfl
  | number h hv =>
    have hquoted : Lexeme.quoted (w ++ r) = .absent := by
      refine quoted_eq_absent fun c hc => ?_
      have hc := h.head c hc
      constructor <;> rintro rfl <;> revert hc <;> decide
    rw [value, hquoted, Reading.map, Reading.orElse, h.number?_append hr]
    cases hv with
    | flag hb => exact absurd hb (lowered_ne_of_isNumber h _)
    | text => rfl
  | word h hv =>
    have hquoted : Lexeme.quoted (w ++ r) = .absent := by
      refine quoted_eq_absent fun c hc => ?_
      have hc := h.isWordStart_head c hc
      constructor <;> rintro rfl <;> revert hc <;> decide
    have hnumber : number? (w ++ r) = none := by
      refine number?_eq_none fun c hc => ?_
      have hc := h.isWordStart_head c hc
      have hfirst : ¬(c.isDigit = true ∨ c = '.' ∨ c = '+' ∨ c = '-') := fun hfirst =>
        Bool.false_ne_true ((isWordStart_of_number hfirst).symm.trans hc)
      simpa [not_or] using hfirst
    rw [value, hquoted, Reading.map, Reading.orElse, hnumber, h.word?_append hr, means_iff.1 hv]
    rfl

/-! ### Comparisons -/

theorem exists_of_operator? (h : operator? s = some (op, r)) : ∃ o ∈ op.spellings, s = o ++ r := by
  unfold operator? at h
  split at h
  case h_8 => cases h
  all_goals
    obtain ⟨rfl, rfl⟩ := Prod.mk.inj (Option.some.inj h)
    simp [Operator.spellings]

/-- The characters that a comparison may begin with. -/
def operatorStarts : List Char := ['=', '!', '<', '>']

theorem head_of_mem_spellings (ho : w ∈ op.spellings) :
    ∀ c ∈ (w ++ r).head?, c ∈ operatorStarts := by
  cases op <;> simp only [Operator.spellings, List.mem_cons, List.not_mem_nil, or_false] at ho
  case eq => rcases ho with rfl | rfl <;> simp [operatorStarts]
  all_goals simp [ho, operatorStarts]

theorem operator?_eq_none (h : ∀ c ∈ s.head?, c ∉ operatorStarts) : operator? s = none := by
  cases s with
  | nil => rfl
  | cons c s =>
    have hc : ∀ x ∈ operatorStarts, c ≠ x := fun x hx hcx => h c rfl (hcx ▸ hx)
    simp only [operatorStarts, List.forall_mem_cons] at hc
    simp [operator?, hc]

/-- **The longer of two signs is taken**, so a sign is read as it stands if no `=` comes after
it. -/
theorem operator?_append (ho : w ∈ op.spellings) (hr : ∀ c ∈ r.head?, c ≠ '=') :
    operator? (w ++ r) = some (op, r) := by
  have hsplit : r = [] ∨ ∃ c t, r = c :: t ∧ c ≠ '=' := by
    cases r with
    | nil => exact .inl rfl
    | cons c t => exact .inr ⟨c, t, rfl, hr c rfl⟩
  cases op <;> simp only [Operator.spellings, List.mem_cons, List.not_mem_nil, or_false] at ho
  case eq =>
    rcases ho with rfl | rfl
    · rfl
    · rcases hsplit with rfl | ⟨c, t, rfl, hc⟩ <;> simp [operator?, *]
  all_goals
    subst ho
    rcases hsplit with rfl | ⟨c, t, rfl, hc⟩ <;> simp [operator?, *]

theorem exists_of_comparison (h : comparison s = .found (op, v) r) :
    ∃ o t u, Layout s (o ++ t) ∧ o ∈ op.spellings ∧ Layout t (u ++ r) ∧ IsConstant u v := by
  unfold comparison at h
  split at h
  · cases h
  · next op' t hop =>
    obtain ⟨v', hvalue, heq⟩ := Reading.map_eq_found.1 h
    obtain ⟨rfl, rfl⟩ := Prod.mk.inj heq
    obtain ⟨o, ho, ht⟩ := exists_of_operator? hop
    obtain ⟨u, hu, hr⟩ := isConstant_of_value hvalue
    exact ⟨o, t, u, ht ▸ layout_skipLayout s, ho, hr ▸ layout_skipLayout t, hu⟩

theorem comparison_eq_found (hs : Layout s (w ++ t)) (ho : w ∈ op.spellings)
    (ht : Layout t (u ++ r)) (hv : IsConstant u v) (hr : Breaks r) :
    comparison s = .found (op, v) r := by
  have hsign : skipLayout s = w ++ t := by
    refine hs.skipLayout_eq.trans (skipLayout_eq_self fun c hc => ?_)
    have hlayout : ∀ c ∈ operatorStarts, c ∉ spaces ∧ c ≠ '#' :=
      List.all_iff_forall_prop.1 (by decide)
    exact hlayout c (head_of_mem_spellings ho c hc)
  have hoperator : operator? (w ++ t) = some (op, t) := by
    have hspaces : ∀ c ∈ spaces, c ≠ '=' := List.all_iff_forall_prop.1 (by decide)
    exact operator?_append ho (ht.forall_head hspaces (by decide) fun c hc => (hv.head c hc).2)
  have hconstant : skipLayout t = u ++ r :=
    ht.skipLayout_eq.trans (skipLayout_eq_self fun c hc => (hv.head c hc).1)
  rw [comparison, hsign, hoperator]
  dsimp only
  rw [hconstant, hv.value_append hr]
  rfl

theorem comparison_eq_absent (h : ∀ c ∈ (skipLayout s).head?, c ∉ operatorStarts) :
    comparison s = .absent := by
  rw [comparison, operator?_eq_none h]

/-! ### Relations -/

theorem isRelation_of_relation (h : relation s = .found e r) : IsRelation s e r := by
  obtain ⟨a, t, ha, htail⟩ := Reading.bind_eq_found.1 h
  obtain ⟨w, hw, rfl⟩ := isAttribute_of_attributeName ha
  obtain ⟨tail, hoptional, rfl⟩ := Reading.map_eq_found.1 htail
  rcases Reading.optional_eq_found.1 hoptional with ⟨⟨op, v⟩, hfound, rfl⟩ | ⟨-, rfl, rfl⟩
  · obtain ⟨o, t', u, hs, ho, ht, hu⟩ := exists_of_comparison hfound
    exact .compares hw hs ho ht hu
  · exact .holds _ hw

/-- **An attribute is read with the comparison after it**, if the text goes on neither with its last
word or number nor with a comparison. -/
theorem IsRelation.relation_eq_found (h : IsRelation s e r) (hr : Breaks r)
    (hnone : comparison r = .absent) : relation s = .found e r := by
  cases h with
  | holds r ha => rw [relation, ha.attributeName_append hr, Reading.bind, hnone]; rfl
  | @compares w s o t u r a op v ha hs ho ht hv =>
    have hbreaks : Breaks s := by
      have hsigns : ∀ c ∈ operatorStarts, isWordMiddle c = false :=
        List.all_iff_forall_prop.1 (by decide)
      exact hs.breaks fun c hc => hsigns c (head_of_mem_spellings ho c hc)
    rw [relation, ha.attributeName_append hbreaks, Reading.bind, comparison_eq_found hs ho ht hv hr]
    rfl

theorem IsRelation.head (h : IsRelation s e r) :
    ∀ c ∈ s.head?, isWordStart c = true ∨ c = '"' ∨ c = '\'' := by
  cases h with
  | holds r ha => exact ha.1.head
  | compares ha hs ho ht hv => exact ha.1.head

theorem IsRelation.length_le (h : IsRelation s e r) : r.length ≤ s.length := by
  cases h with
  | holds r ha => simp
  | compares ha hs ho ht hv =>
    have hs := hs.length_le
    have ht := ht.length_le
    simp only [List.length_append] at hs ht ⊢
    omega

end Grammar

end Clearance
