import Clearance.Proofs.Grammar.Label
import Clearance.Proofs.Request.Unordered

/-!
# Printed labels

A printed expression is a text of the grammar, and the grammar says what it is read as. Names and
constants are read back, except that a text which spells a truth value comes back as the truth
value. Chains come back grouped to the left, and the brackets that were added around a disjunction
under a conjunction come back as brackets. So an expression may come back as another one; but what
was read from a text is grouped to the left already, has its brackets, and spells no truth value as
a text, and so it comes back as itself.

No name of a truth value can be read as an attribute, and what always allows or always denies is
never read as a part of another expression.

## Main definitions

* `Clearance.Expr.IsInner` — expressions that can be read as parts of others.
* `Clearance.Expr.reread` — what a printed expression is read as.
* `Clearance.Value.NoFlagText` — values that are no texts which spell truth values.

## Main results

* `Clearance.Grammar.isAttribute_chars`, `Clearance.Grammar.isConstant_chars` — names and constants.
* `Clearance.Grammar.Spells.append` — two chains that are joined.
* `Clearance.Grammar.spells_chars` — printed expressions.
* `Clearance.Grammar.printing_keeps_what_was_read`.
-/

namespace Clearance

open Grammar Lexeme

/-! ### Names and constants -/

namespace Grammar

variable {s w t u r : List Char} {a : Attribute} {v : Value}

theorem isWord_of_isWholeWord (h : isWholeWord s = true) : IsWord s := by
  unfold isWholeWord at h
  split at h
  · next w hw =>
    obtain ⟨hword, rfl⟩ := isWord_of_word? hw
    rwa [List.append_nil]
  · cases h

theorem isNumber_of_isWholeNumber (h : isWholeNumber s = true) : IsNumber s := by
  unfold isWholeNumber at h
  split at h
  · next n hn =>
    obtain ⟨hnumber, rfl⟩ := isNumber_of_number? hn
    rwa [List.append_nil]
  · cases h

theorem written_escapeChar (c : Char) (h : Written '"' w t) :
    Written '"' (escapeChar c ++ w) (c :: t) := by
  unfold escapeChar
  split
  · exact .escaped (by decide) (by decide) h
  · exact .escaped (by decide) (by decide) h
  · exact .lineFeed h
  · exact .tab h
  · next hquote hescape _ _ => exact .plain hquote hescape h

theorem written_escape : ∀ s : List Char, Written '"' (s.flatMap escapeChar) s
  | [] => .nothing
  | c :: s => written_escapeChar c (written_escape s)

theorem isQuoted_quotedChars (s : List Char) : IsQuoted (quotedChars s) s :=
  .intro (.inl rfl) (written_escape s)

theorem isName_chars (a : Attribute) : IsName (Attribute.chars a) a.toList := by
  unfold Attribute.chars
  split
  · next hbare =>
    rw [isBareAttribute, Bool.and_eq_true] at hbare
    exact .word (isWord_of_isWholeWord hbare.2)
  · exact .quoted (isQuoted_quotedChars _)

theorem isAttribute_chars (h : a ≠ "true" ∧ a ≠ "false") : IsAttribute (Attribute.chars a) a :=
  ⟨isName_chars a, h⟩

end Grammar

/-- The value that a printed value is read as: a text that spells a truth value is taken for it. -/
def Value.reread : Value → Value
  | .flag b => .flag b
  | .text s => .ofChars s.toList

namespace Grammar

variable {w : List Char} {v : Value}

theorem isConstant_chars (v : Value) : IsConstant v.chars v.reread := by
  cases v with
  | flag b =>
    have hword : isWholeWord (flagChars b) = true := by cases b <;> decide
    have hmeans : lowered (flagChars b) = flagChars b := by cases b <;> decide
    exact .word (isWord_of_isWholeWord hword) (.flag hmeans)
  | text s =>
    have hmeans : Means s.toList (Value.reread (.text s)) := means_iff.2 rfl
    rw [Value.chars]
    split
    · next hbare =>
      rw [isBareValue, Bool.and_eq_true, Bool.or_eq_true] at hbare
      rcases hbare.2 with hword | hnumber
      · exact .word (isWord_of_isWholeWord hword) hmeans
      · exact .number (isNumber_of_isWholeNumber hnumber) hmeans
    · exact .quoted (isQuoted_quotedChars _) hmeans

/-- A value is read back unless it is a text that spells a truth value. -/
theorem reread_eq_self (h : ∀ s, v = .text s → ∀ b, lowered s.toList ≠ flagChars b) :
    v.reread = v := by
  cases v with
  | flag b => rfl
  | text s =>
    have hmeans : Means s.toList (.text (String.ofList s.toList)) := .text (h s rfl)
    rw [String.ofList_toList] at hmeans
    exact (means_iff.1 hmeans).symm

end Grammar

/-- Whether a value is no text that spells a truth value, in capital or small letters. -/
def Value.NoFlagText : Value → Prop
  | .flag _ => True
  | .text s => ∀ b, lowered s.toList ≠ flagChars b

instance : DecidablePred Value.NoFlagText
  | .flag _ => inferInstanceAs (Decidable True)
  | .text s => inferInstanceAs (Decidable (∀ b, lowered s.toList ≠ flagChars b))

namespace Grammar

variable {w : List Char} {v : Value}

theorem reread_eq_of_noFlagText (h : v.NoFlagText) : v.reread = v :=
  reread_eq_self fun s hs => by
    subst hs
    exact h

theorem isConstant_chars_of_noFlagText (h : v.NoFlagText) : IsConstant v.chars v := by
  have hchars := isConstant_chars v
  rwa [reread_eq_of_noFlagText h] at hchars

/-- What was read from a text spells no truth value as a text. -/
theorem IsConstant.noFlagText (h : IsConstant w v) : v.NoFlagText := by
  have hmeans {t : List Char} (ht : Means t v) : v.NoFlagText := by
    cases ht with
    | flag hb => trivial
    | text hnone =>
      show ∀ b, lowered (String.ofList t).toList ≠ flagChars b
      rwa [String.toList_ofList]
  cases h with
  | quoted _ ht => exact hmeans ht
  | number _ ht => exact hmeans ht
  | word _ ht => exact hmeans ht

theorem IsConstant.reread_eq (h : IsConstant w v) : v.reread = v :=
  reread_eq_of_noFlagText h.noFlagText

end Grammar

/-! ### Chains -/

namespace Grammar

variable {p : Phrase} {k : Connective} {e f : Expr} {o s r t u v : List Char}

/-- What a chain is read as after an expression and a connective: its items are joined one by one to
what stands before them. -/
def Connective.regroup : Connective → Expr → Expr → Expr
  | .and, e, .and f g => .and (Connective.and.regroup e f) g
  | .or, e, .or f g => .or (Connective.or.regroup e f) g
  | k, e, f => k.join e f

theorem regroup_join (k : Connective) (e f g : Expr) :
    k.regroup e (k.join f g) = k.join (k.regroup e f) g := by
  cases k <;> rfl

/-- An item of a chain is no chain of the same connective. -/
theorem Spells.regroup_eq (h : Spells k.item v f r) : k.regroup e f = k.join e f := by
  have hoperand {k : Connective} (h : Spells .operand v f r) : k.regroup e f = k.join e f := by
    cases h with
    | relation h => cases h <;> cases k <;> rfl
    | bracket hs h hu => cases k <;> rfl
  cases k with
  | and => exact hoperand h
  | or =>
    cases (show Spells (.chain .and) v f r from h) with
    | one h => exact hoperand h
    | more h ht ho hu hv => rfl

/-- **Two chains with the connective between them are one chain.** -/
theorem Spells.append (h : Spells (.chain k) s e t) (ht : Layout t (o ++ u)) (ho : o ∈ k.signs)
    (hu : Layout u v) (hv : Spells (.chain k) v f r) : Spells (.chain k) s (k.regroup e f) r := by
  generalize hp : Phrase.chain k = p at hv
  induction hv with
  | relation => cases hp
  | bracket => cases hp
  | one hv =>
    cases hp
    rw [hv.regroup_eq]
    exact .more h ht ho hu hv
  | more _ ht' ho' hu' hv' ih =>
    cases hp
    rw [regroup_join]
    exact .more (ih hu rfl) ht' ho' hu' hv'

/-- Every phrase is a chain of conjunctions, perhaps of one. -/
theorem Spells.toDisjunction (h : Spells p s e r) : Spells (.chain .or) s e r := by
  match p with
  | .operand => exact .one (.one (k := .and) h)
  | .chain .and => exact .one h
  | .chain .or => exact h

end Grammar

/-! ### Expressions -/

namespace Expr

/-- Whether one of the expressions that always allow or always deny is in an expression. -/
def hasVerdict : Expr → Bool
  | .allow => true
  | .deny => true
  | .holds _ => false
  | .relation _ _ _ => false
  | .and e f => e.hasVerdict || f.hasVerdict
  | .or e f => e.hasVerdict || f.hasVerdict
  | .bracket e => e.hasVerdict

/-- Whether no attribute in an expression is named like a truth value. -/
def Named (e : Expr) : Prop := e.EveryAtom fun a _ => a ≠ "true" ∧ a ≠ "false"

/-- Whether an expression can be read as a part of others. -/
def IsInner (e : Expr) : Prop := e.Named ∧ e.hasVerdict = false

/-- An expression as an operand of a conjunction, where disjunctions stand in brackets. -/
def asOperand (isOr : Bool) (e : Expr) : Expr := if isOr then .bracket e else e

/-- The expression that a printed expression is read as. -/
def reread : Expr → Expr
  | .holds a => .holds a
  | .relation a op v => .relation a op v.reread
  | .and e f => Connective.and.regroup (asOperand e.isOr e.reread) (asOperand f.isOr f.reread)
  | .or e f => Connective.or.regroup e.reread f.reread
  | .bracket e => .bracket e.reread
  | .allow => .allow
  | .deny => .deny

variable {e f : Expr}

theorem isInner_and : (Expr.and e f).IsInner ↔ e.IsInner ∧ f.IsInner := by
  simp only [IsInner, Named, EveryAtom, hasVerdict, Bool.or_eq_false_iff]
  exact and_and_and_comm

theorem isInner_or : (Expr.or e f).IsInner ↔ e.IsInner ∧ f.IsInner := isInner_and

/-- The kind of phrase that an expression is printed as. -/
def phrase : Expr → Phrase
  | .and _ _ => .chain .and
  | .or _ _ => .chain .or
  | _ => .operand

end Expr

namespace Grammar

variable {p : Phrase} {k : Connective} {e f : Expr} {s r : List Char}

/-- A connective as it is printed. -/
def Connective.separator (k : Connective) : List Char := [' ', k.mark, k.mark, ' ']

/-- Two chains with a printed connective between them. -/
theorem Spells.append_separator {v : List Char} (h : Spells (.chain k) s e (k.separator ++ v))
    (hv : Spells (.chain k) v f r) : Spells (.chain k) s (k.regroup e f) r := by
  have hbefore : Layout (k.separator ++ v) ([k.mark, k.mark] ++ ' ' :: v) :=
    .space (by decide) (.nothing _)
  exact h.append hbefore List.mem_cons_self (.space (by decide) (.nothing _)) hv

/-- A printed expression as an operand of a conjunction. -/
theorem spells_operandChars (h : ∀ u, Spells e.phrase (e.chars ++ u) f u) (u : List Char) :
    Spells (.chain .and) (operandChars e.isOr e.chars ++ u) (Expr.asOperand e.isOr f) u := by
  cases e with
  | or l r =>
    have hinner := h (')' :: u)
    have hbracket : Spells .operand ('(' :: ((Expr.or l r).chars ++ ')' :: u)) (.bracket f) u :=
      .bracket (.nothing _) hinner (.nothing _)
    show Spells _ ('(' :: ((Expr.or l r).chars ++ [')']) ++ u) _ _
    rw [List.cons_append, List.append_assoc]
    exact .one hbracket
  | and l r => exact h u
  | _ => exact .one (h u)

/-- **A printed expression is a text of the grammar**, whatever comes after it, if it can be read as
a part of others. -/
theorem spells_chars : ∀ {e : Expr}, e.IsInner → ∀ u, Spells e.phrase (e.chars ++ u) e.reread u
  | .holds a, h, u => .relation (.holds u (isAttribute_chars h.1))
  | .relation a op v, h, u => by
    have hsign : op.symbol.toList ∈ op.spellings := by cases op <;> decide
    rw [Expr.chars, List.append_assoc, List.append_assoc]
    exact .relation (.compares (t := ' ' :: (v.chars ++ u)) (isAttribute_chars h.1)
      (.space (by decide) (.nothing _)) hsign (.space (by decide) (.nothing _))
      (isConstant_chars v))
  | .and e f, h, u => by
    obtain ⟨he, hf⟩ := Expr.isInner_and.1 h
    rw [Expr.chars, List.append_assoc, List.append_assoc]
    exact (spells_operandChars (spells_chars he) _).append_separator
      (spells_operandChars (spells_chars hf) u)
  | .or e f, h, u => by
    obtain ⟨he, hf⟩ := Expr.isInner_or.1 h
    rw [Expr.chars, List.append_assoc, List.append_assoc]
    exact (spells_chars he _).toDisjunction.append_separator (spells_chars hf u).toDisjunction
  | .bracket e, h, u => by
    rw [Expr.chars, List.cons_append, List.append_assoc]
    exact .bracket (.nothing _) (spells_chars (e := e) h _).toDisjunction (.nothing _)
  | .allow, h, u => nomatch h.2
  | .deny, h, u => nomatch h.2

/-- **A printed expression is read** as a whole. -/
theorem parse_chars (h : e.IsInner ∨ e = .allow ∨ e = .deny) :
    Expr.parse e.chars = .ok e.reread := by
  rcases h with h | rfl | rfl
  · have hspells := spells_chars h []
    rw [List.append_nil] at hspells
    exact IsLabel.parse_eq_ok (.expression (.nothing _) hspells.toDisjunction (.nothing _))
  · rfl
  · rfl

/-! ### What was read from a text -/

theorem IsRelation.isInner (h : IsRelation s e r) : e.IsInner ∧ e.reread = e := by
  cases h with
  | holds r ha => exact ⟨⟨ha.2, rfl⟩, rfl⟩
  | compares ha hs ho ht hv => exact ⟨⟨ha.2, rfl⟩, by rw [Expr.reread, hv.reread_eq]⟩

theorem Spells.isOr_eq (h : Spells p s e r) (hp : p ≠ .chain .or) : e.isOr = false := by
  cases h with
  | relation h => cases h <;> rfl
  | bracket => rfl
  | @one k s r e h =>
    cases k with
    | or => exact absurd rfl hp
    | and =>
      cases (show Spells .operand s e r from h) with
      | relation h => cases h <;> rfl
      | bracket => rfl
  | @more k _ _ _ _ _ _ _ _ _ _ _ _ _ =>
    cases k with
    | or => exact absurd rfl hp
    | and => rfl

/-- **What was read comes back as itself.** -/
theorem Spells.isInner (h : Spells p s e r) : e.IsInner ∧ e.reread = e := by
  induction h with
  | relation h => exact h.isInner
  | bracket hs h hu ih => exact ⟨ih.1, congrArg Expr.bracket ih.2⟩
  | one h ih => exact ih
  | @more k _ _ _ _ _ _ e f h ht ho hu hv ihe ihf =>
    obtain ⟨hinner, he⟩ := ihe
    obtain ⟨hinner', hf⟩ := ihf
    cases k with
    | and =>
      refine ⟨Expr.isInner_and.2 ⟨hinner, hinner'⟩, ?_⟩
      show Connective.and.regroup (Expr.asOperand e.isOr e.reread) (Expr.asOperand f.isOr f.reread)
        = _
      rw [h.isOr_eq (by simp), hv.isOr_eq (by simp [Connective.item]), he, hf]
      exact hv.regroup_eq
    | or =>
      refine ⟨Expr.isInner_or.2 ⟨hinner, hinner'⟩, ?_⟩
      show Connective.or.regroup e.reread f.reread = _
      rw [he, hf]
      exact hv.regroup_eq

theorem IsLabel.reread_eq (h : IsLabel s e) :
    (e.IsInner ∨ e = .allow ∨ e = .deny) ∧ e.reread = e := by
  cases h with
  | allow => exact ⟨.inr (.inl rfl), rfl⟩
  | deny => exact ⟨.inr (.inr rfl), rfl⟩
  | expression hs h hr => exact ⟨.inl h.isInner.1, h.isInner.2⟩

/-- **Printing keeps what was read:** the expression that a text spells is printed as a text that
spells the same expression. -/
theorem printing_keeps_what_was_read {text : List Char} (h : Expr.parse text = .ok e) :
    Expr.parse e.chars = .ok e := by
  obtain ⟨hreadable, hsame⟩ := (isLabel_of_parse h).reread_eq
  rw [parse_chars hreadable, hsame]

/-- A text with added brackets, a quote in a name, numbers and a truth value, and the text that its
expression is printed as. -/
theorem printing_keeps_what_was_read_quoted :
    let text := "(a|'b \"c')&((d>=-.5e2)) && e == TRUE # and more".toList
    let printed := "(a || \"b \\\"c\") && ((d >= -.5e2)) && e = true".toList
    let e : Expr := .and (.and (.bracket (.or (.holds "a") (.holds "b \"c")))
      (.bracket (.bracket (.relation "d" .ge (.text "-.5e2"))))) (.relation "e" .eq (.flag true))
    Expr.parse text = .ok e ∧ e.chars = printed ∧ Expr.parse printed = .ok e := by
  intro text printed e
  have hparse : Expr.parse text = .ok e := rfl
  have hprinted : e.chars = printed := rfl
  exact ⟨hparse, hprinted, hprinted ▸ printing_keeps_what_was_read hparse⟩

end Grammar

end Clearance
