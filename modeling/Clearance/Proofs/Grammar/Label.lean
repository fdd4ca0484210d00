import Clearance.Proofs.Grammar.Relation

/-!
# The grammar of labels

Operands are joined by `&` into conjunctions, conjunctions by `|` into disjunctions, and a
disjunction in brackets is an operand again. The grammar has one rule for both connectives: of a
chain of items, the last is joined to all that stands before it. It leaves open where a phrase ends
and how much layout stands anywhere.

The reader takes the longest chain, and looks no further than the next sign to see whether a chain
goes on. That it loses no label on the way rests on what may follow a phrase inside a label: after
layout, a sign that does not belong to the phrase, or nothing. None of them continues a word, a
comparison or the chain.

## Main definitions

* `Clearance.Grammar.Spells` — the grammar of operands, conjunctions and disjunctions.
* `Clearance.Grammar.IsLabel` — the texts of labels.

## Main results

* `Clearance.Grammar.spells_of_disjunction` — what the reader finds follows the grammar.
* `Clearance.Grammar.Spells.reached` — what follows the grammar is read.
* `Clearance.Grammar.parse_exactly_labels` — the texts that are read as labels are those of the
  grammar, and each has one expression.
-/

namespace Clearance

namespace Grammar

open Lexeme

/-! ### The grammar -/

/-- The signs that join expressions. -/
inductive Connective where
  | and
  | or

/-- What is read between the signs of a label: an operand, or a chain of a connective. -/
inductive Phrase where
  | operand
  | chain (k : Connective)

namespace Connective

/-- The items that a connective joins. -/
def item : Connective → Phrase
  | .and => .operand
  | .or => .chain .and

/-- The character of a connective. -/
def mark : Connective → Char
  | .and => '&'
  | .or => '|'

/-- The ways to write a connective, whose character may be doubled. -/
def signs (k : Connective) : List (List Char) := [[k.mark, k.mark], [k.mark]]

/-- The expression that a connective makes of two. -/
def join : Connective → Expr → Expr → Expr
  | .and => .and
  | .or => .or

end Connective

/-- `Spells p s e r`: the text `s` is a phrase of the kind `p` for the expression `e`, and then
`r`. -/
inductive Spells : Phrase → List Char → Expr → List Char → Prop
  /-- An attribute, with the comparison that may follow it. -/
  | relation {s r : List Char} {e : Expr} (h : IsRelation s e r) : Spells .operand s e r
  /-- A disjunction in brackets. -/
  | bracket {s t u r : List Char} {e : Expr} (hs : Layout s t) (h : Spells (.chain .or) t e u)
      (hu : Layout u (')' :: r)) : Spells .operand ('(' :: s) (.bracket e) r
  /-- A chain of one item. -/
  | one {k : Connective} {s r : List Char} {e : Expr} (h : Spells k.item s e r) :
      Spells (.chain k) s e r
  /-- One more item at the end of a chain. -/
  | more {k : Connective} {s t o u v r : List Char} {e f : Expr} (h : Spells (.chain k) s e t)
      (ht : Layout t (o ++ u)) (ho : o ∈ k.signs) (hu : Layout u v) (hv : Spells k.item v f r) :
      Spells (.chain k) s (k.join e f) r

/-- `IsLabel s e`: the text `s` is a label for the expression `e`, with layout around it. -/
inductive IsLabel : List Char → Expr → Prop
  | allow {s r : List Char} (hs : Layout s ('*' :: r)) (hr : Layout r []) : IsLabel s .allow
  | deny {s r : List Char} (hs : Layout s ('!' :: r)) (hr : Layout r []) : IsLabel s .deny
  | expression {s t r : List Char} {e : Expr} (hs : Layout s t) (h : Spells (.chain .or) t e r)
      (hr : Layout r []) : IsLabel s e

variable {p : Phrase} {k : Connective} {e f : Expr} {n : Nat} {o s r t u v : List Char}

theorem Spells.length_le (h : Spells p s e r) : r.length ≤ s.length := by
  induction h with
  | relation h => exact h.length_le
  | bracket hs h hu ih =>
    have hs := hs.length_le
    have hu := hu.length_le
    simp only [List.length_cons] at hu ⊢
    omega
  | one h ih => exact ih
  | more h ht ho hu hv ih ihv =>
    have ht := ht.length_le
    have hu := hu.length_le
    simp only [List.length_append] at ht
    omega

/-- A phrase begins with a bracket, a quote or a word. -/
theorem Spells.head (h : Spells p s e r) :
    ∀ c ∈ s.head?, c = '(' ∨ isWordStart c = true ∨ c = '"' ∨ c = '\'' := by
  induction h with
  | relation h => exact fun c hc => .inr (h.head c hc)
  | bracket hs h hu ih => exact fun c hc => .inl (Option.some.inj hc).symm
  | one h ih => exact ih
  | more h ht ho hu hv ih ihv => exact ih

/-! ### The reader -/

/-- The text after the sign of a connective. -/
def Connective.sign? : Connective → List Char → Option (List Char)
  | .and => andSign?
  | .or => orSign?

/-- The reader of phrases, with brackets nested at most `depth` deep. -/
def readPhrase (depth : Nat) : Phrase → List Char → Reading Expr
  | .operand => operand (disjunction depth)
  | .chain .and => conjunction (disjunction depth)
  | .chain .or => disjunction (depth + 1)

theorem readPhrase_chain (k : Connective) (s : List Char) : readPhrase n (.chain k) s =
    (readPhrase n k.item s).bind fun e r =>
      chain (readPhrase n k.item) k.sign? k.join r.length e r := by
  cases k <;> rfl

theorem exists_of_sign? (h : k.sign? s = some r) : ∃ o ∈ k.signs, s = o ++ r := by
  cases k with
  | and =>
    change andSign? s = some r at h
    unfold andSign? at h
    split at h <;> simp_all [Connective.signs, Connective.mark]
  | or =>
    change orSign? s = some r at h
    unfold orSign? at h
    split at h <;> simp_all [Connective.signs, Connective.mark]

theorem sign?_eq_none (h : ∀ c ∈ s.head?, c ≠ k.mark) : k.sign? s = none := by
  cases s with
  | nil => cases k <;> rfl
  | cons c s =>
    have hc : c ≠ k.mark := h c rfl
    cases k <;> simp_all [Connective.sign?, andSign?, orSign?, Connective.mark]

/-- **A doubled sign is taken before a single one**, so a sign is read as it stands if the same
character does not come after it. -/
theorem sign?_append (ho : o ∈ k.signs) (hr : ∀ c ∈ r.head?, c ≠ k.mark) :
    k.sign? (o ++ r) = some r := by
  have hcases : o = [k.mark, k.mark] ∨ o = [k.mark] := by simpa [Connective.signs] using ho
  rcases hcases with rfl | rfl
  · cases k <;> rfl
  · cases r with
    | nil => cases k <;> rfl
    | cons c r =>
      have hc : c ≠ k.mark := hr c rfl
      cases k <;> simp_all [Connective.sign?, andSign?, orSign?, Connective.mark]

theorem length_pos_of_mem_signs (ho : o ∈ k.signs) : 0 < o.length := by
  have hcases : o = [k.mark, k.mark] ∨ o = [k.mark] := by simpa [Connective.signs] using ho
  rcases hcases with rfl | rfl <;> simp

theorem eq_mark_of_mem_signs (ho : o ∈ k.signs) : ∀ c ∈ (o ++ r).head?, c = k.mark := by
  have hcases : o = [k.mark, k.mark] ∨ o = [k.mark] := by simpa [Connective.signs] using ho
  rcases hcases with rfl | rfl <;> exact fun c hc => (Option.some.inj hc).symm

theorem bracketed_eq_found {inner : List Char → Reading Expr} :
    bracketed inner s = .found f r ↔ ∃ t e u, s = '(' :: t ∧ inner (skipLayout t) = .found e u ∧
      skipLayout u = ')' :: r ∧ f = .bracket e := by
  constructor
  · intro h
    unfold bracketed at h
    split at h
    · next t =>
      obtain ⟨e, u, hinner, h⟩ := Reading.bind_eq_found.1 h
      split at h
      · next hu =>
        obtain ⟨rfl, rfl⟩ := Reading.found.inj h
        exact ⟨t, e, u, rfl, hinner, hu, rfl⟩
      · cases h
    · cases h
  · rintro ⟨t, e, u, rfl, hinner, hu, rfl⟩
    rw [bracketed, hinner, Reading.bind, hu]
    rfl

theorem bracketed_eq_absent {inner : List Char → Reading Expr} (h : ∀ c ∈ s.head?, c ≠ '(') :
    bracketed inner s = .absent := by
  unfold bracketed
  split
  · exact absurd rfl (h '(' rfl)
  · rfl

/-! ### What is read follows the grammar -/

theorem spells_of_chain
    (hitem : ∀ {s e r}, readPhrase n k.item s = .found e r → Spells k.item s e r) :
    ∀ {fuel : Nat} {e : Expr} {t : List Char}, Spells (.chain k) s e t →
      chain (readPhrase n k.item) k.sign? k.join fuel e t = .found f r →
      Spells (.chain k) s f r := by
  intro fuel
  induction fuel with
  | zero =>
    intro e t hspells h
    obtain ⟨rfl, rfl⟩ := Reading.found.inj h
    exact hspells
  | succ fuel ih =>
    intro e t hspells h
    rw [chain] at h
    split at h
    · obtain ⟨rfl, rfl⟩ := Reading.found.inj h
      exact hspells
    · next u hsign =>
      obtain ⟨o, ho, hu⟩ := exists_of_sign? hsign
      split at h
      · next e' v hv =>
        exact ih (.more hspells (hu ▸ layout_skipLayout t) ho (layout_skipLayout u) (hitem hv)) h
      · obtain ⟨rfl, rfl⟩ := Reading.found.inj h
        exact hspells
      · cases h

theorem spells_of_readPhrase_chain
    (hitem : ∀ {s e r}, readPhrase n k.item s = .found e r → Spells k.item s e r)
    (h : readPhrase n (.chain k) s = .found f r) : Spells (.chain k) s f r := by
  rw [readPhrase_chain] at h
  obtain ⟨e, t, hfirst, hrest⟩ := Reading.bind_eq_found.1 h
  exact spells_of_chain hitem (.one (hitem hfirst)) hrest

theorem spells_of_readPhrase
    (hinner : ∀ {s e r}, disjunction n s = .found e r → Spells (.chain .or) s e r) :
    ∀ {p : Phrase} {s : List Char} {e : Expr} {r : List Char},
      readPhrase n p s = .found e r → Spells p s e r := by
  have hoperand : ∀ {s e r}, readPhrase n .operand s = .found e r → Spells .operand s e r := by
    intro s e r h
    rcases Reading.orElse_eq_found.1 (show operand (disjunction n) s = _ from h) with h | ⟨-, h⟩
    · obtain ⟨t, e, u, rfl, ht, hu, rfl⟩ := bracketed_eq_found.1 h
      exact .bracket (layout_skipLayout t) (hinner ht) (hu ▸ layout_skipLayout u)
    · exact .relation (isRelation_of_relation h)
  have hconjunction : ∀ {s e r}, readPhrase n (.chain .and) s = .found e r →
      Spells (.chain .and) s e r := spells_of_readPhrase_chain hoperand
  intro p s e r h
  match p with
  | .operand => exact hoperand h
  | .chain .and => exact hconjunction h
  | .chain .or => exact spells_of_readPhrase_chain hconjunction h

/-- **What the reader finds follows the grammar**, however deep its brackets are. -/
theorem spells_of_disjunction (n : Nat) : ∀ {s : List Char} {e : Expr} {r : List Char},
    disjunction n s = .found e r → Spells (.chain .or) s e r := by
  induction n with
  | zero => nofun
  | succ n ih => exact fun h => spells_of_readPhrase ih (p := .chain .or) h

/-! ### What follows the grammar is read -/

/-- The signs that may stand after a phrase, apart from layout. -/
def Phrase.stops : Phrase → List Char
  | .operand => ['&', '|', ')']
  | .chain .and => ['|', ')']
  | .chain .or => [')']

/-- A text that may stand after a phrase: after layout comes a sign at which the phrase ends, or
nothing. -/
def Ends (p : Phrase) (r : List Char) : Prop := ∀ c ∈ (skipLayout r).head?, c ∈ p.stops

theorem stops_subset (p : Phrase) : p.stops ⊆ Phrase.operand.stops := by
  match p with
  | .operand => exact List.Subset.refl _
  | .chain .and => decide
  | .chain .or => decide

theorem Ends.of_item (h : Ends (.chain k) r) : Ends k.item r := by
  have hstops : (Phrase.chain k).stops ⊆ k.item.stops := by cases k <;> decide
  exact fun c hc => hstops (h c hc)

theorem Ends.breaks (h : Ends p r) : Breaks r := by
  have hstops : ∀ c ∈ Phrase.operand.stops, isWordMiddle c = false :=
    List.all_iff_forall_prop.1 (by decide)
  exact (layout_skipLayout r).breaks fun c hc => hstops c (stops_subset p (h c hc))

theorem Ends.comparison (h : Ends p r) : comparison r = .absent := by
  have hstops : ∀ c ∈ Phrase.operand.stops, c ∉ operatorStarts :=
    List.all_iff_forall_prop.1 (by decide)
  exact comparison_eq_absent fun c hc => hstops c (stops_subset p (h c hc))

theorem Ends.sign? (h : Ends (.chain k) r) : k.sign? (skipLayout r) = none := by
  have hstops : ∀ c ∈ (Phrase.chain k).stops, c ≠ k.mark :=
    List.all_iff_forall_prop.1 (by cases k <;> decide)
  exact sign?_eq_none fun c hc => hstops c (h c hc)

theorem skipLayout_eq_sign (ht : Layout t (o ++ u)) (ho : o ∈ k.signs) : skipLayout t = o ++ u := by
  have hmark : k.mark ∉ spaces ∧ k.mark ≠ '#' := by cases k <;> decide
  refine ht.skipLayout_eq.trans (skipLayout_eq_self fun c hc => ?_)
  rwa [eq_mark_of_mem_signs ho c hc]

/-- What begins with a sign may stand after an item. -/
theorem ends_item (ht : Layout t (o ++ u)) (ho : o ∈ k.signs) : Ends k.item t := by
  have hstops : k.mark ∈ k.item.stops := by cases k <;> decide
  intro c hc
  rw [skipLayout_eq_sign ht ho] at hc
  rwa [eq_mark_of_mem_signs ho c hc]

/-- No phrase begins with layout or with a connective. -/
theorem Spells.head_ne (h : Spells p s e r) :
    ∀ c ∈ s.head?, (c ∉ spaces ∧ c ≠ '#') ∧ ∀ k : Connective, c ≠ k.mark := by
  have hnone : ∀ x ∈ ['#', '&', '|', ' ', '\t', '\n', '\r'],
      ¬(x = '(' ∨ isWordStart x = true ∨ x = '"' ∨ x = '\'') :=
    List.all_iff_forall_prop.1 (by decide)
  intro c hc
  have hmem : c ∉ ['#', '&', '|', ' ', '\t', '\n', '\r'] := fun hmem => hnone c hmem (h.head c hc)
  simp only [List.mem_cons, not_or] at hmem
  refine ⟨by simp [spaces, hmem], fun k => ?_⟩
  cases k <;> simp [Connective.mark, hmem]

theorem Spells.skipLayout_eq (h : Spells p t e r) (hs : Layout s t) : skipLayout s = t :=
  hs.skipLayout_eq.trans (skipLayout_eq_self fun c hc => (h.head_ne c hc).1)

/-- How far the reader is after a phrase that may yet go on: an operand is found, and of a chain the
items so far are joined. -/
def Reached (n : Nat) : Phrase → List Char → Expr → List Char → Prop
  | .operand, s, e, r => Ends .operand r → readPhrase n .operand s = .found e r
  | .chain k, s, e, r => Ends k.item r → ∃ fuel, r.length ≤ fuel ∧
      readPhrase n (.chain k) s = chain (readPhrase n k.item) k.sign? k.join fuel e r

/-- A phrase is found if it does not go on. -/
theorem Reached.found (h : Reached n p s e r) (hr : Ends p r) : readPhrase n p s = .found e r := by
  match p with
  | .operand => exact h hr
  | .chain k =>
    obtain ⟨fuel, -, hread⟩ := h hr.of_item
    rw [hread]
    cases fuel with
    | zero => rfl
    | succ fuel => rw [chain, hr.sign?]

/-- **What follows the grammar is read**, if the reader may go as deep as the text is long. -/
theorem Spells.reached (h : Spells p s e r) : ∀ {n}, s.length ≤ n → Reached n p s e r := by
  induction h with
  | @relation s r e h =>
    intro n hn hr
    have hbracket : bracketed (disjunction n) s = .absent := by
      refine bracketed_eq_absent fun c hc => ?_
      have hc := h.head c hc
      rintro rfl
      revert hc
      decide
    have hrelation := h.relation_eq_found hr.breaks hr.comparison
    show operand (disjunction n) s = _
    rw [operand, hbracket]
    exact hrelation
  | @bracket s t u r e hs h hu ih =>
    intro n hn hr
    obtain ⟨n, rfl⟩ : ∃ m, n = m + 1 := Nat.exists_eq_succ_of_ne_zero (by rintro rfl; cases hn)
    have hclose : skipLayout u = ')' :: r := hu.skipLayout_eq_cons (by decide)
    have hends : Ends (.chain .or) u := by
      intro c hc
      rw [hclose] at hc
      exact List.mem_singleton.2 (Option.some.inj hc).symm
    have hinner : disjunction (n + 1) (skipLayout s) = .found e u := by
      rw [h.skipLayout_eq hs]
      exact (ih (hs.length_le.trans (Nat.le_of_succ_le_succ hn))).found hends
    show operand (disjunction (n + 1)) _ = _
    rw [operand, bracketed_eq_found.2 ⟨s, e, u, rfl, hinner, hclose, rfl⟩]
    rfl
  | @one k s r e h ih =>
    intro n hn hr
    refine ⟨r.length, Nat.le_refl _, ?_⟩
    rw [readPhrase_chain, (ih hn).found hr]
    rfl
  | @more k s t o u v r e f h ht ho hu hv ih ihv =>
    intro n hn hr
    obtain ⟨fuel, hfuel, hread⟩ := ih hn (ends_item ht ho)
    have hlengths : r.length < t.length ∧ v.length ≤ n := by
      have hs := h.length_le
      have ht := ht.length_le
      have ho := length_pos_of_mem_signs ho
      have hu := hu.length_le
      have hv := hv.length_le
      rw [List.length_append] at ht
      omega
    obtain ⟨fuel, rfl⟩ : ∃ m, fuel = m + 1 := Nat.exists_eq_succ_of_ne_zero (by omega)
    have hsign : k.sign? (o ++ u) = some u := by
      refine sign?_append ho (hu.forall_head ?_ ?_ fun c hc => (hv.head_ne c hc).2 k)
      · exact List.all_iff_forall_prop.1 (by cases k <;> decide)
      · cases k <;> decide
    refine ⟨fuel, by omega, ?_⟩
    rw [hread, chain, skipLayout_eq_sign ht ho, hsign]
    dsimp only
    rw [hv.skipLayout_eq hu, (ihv hlengths.2).found hr]

/-! ### Labels -/

theorem label_eq_disjunction (h : ∀ c ∈ s.head?, c ≠ '*' ∧ c ≠ '!') :
    label s = readPhrase s.length (.chain .or) s := by
  unfold label
  split
  · exact absurd rfl (h '*' rfl).1
  · exact absurd rfl (h '!' rfl).2
  · rfl

theorem parse_eq_ok_iff : Expr.parse s = .ok e ↔
    ∃ r, label (skipLayout s) = .found e r ∧ skipLayout r = [] := by
  rw [Expr.parse, whole_eq_ok, closeLayout_eq_found]

theorem isLabel_of_parse (h : Expr.parse s = .ok e) : IsLabel s e := by
  obtain ⟨r, hlabel, hr⟩ := parse_eq_ok_iff.1 h
  have hlayout : Layout r [] := hr ▸ layout_skipLayout r
  have hstart := layout_skipLayout s
  generalize skipLayout s = t at hlabel hstart
  unfold label at hlabel
  split at hlabel
  · obtain ⟨rfl, rfl⟩ := Reading.found.inj hlabel
    exact .allow hstart hlayout
  · obtain ⟨rfl, rfl⟩ := Reading.found.inj hlabel
    exact .deny hstart hlayout
  · exact .expression hstart (spells_of_disjunction _ hlabel) hlayout

theorem IsLabel.parse_eq_ok (h : IsLabel s e) : Expr.parse s = .ok e := by
  refine parse_eq_ok_iff.2 ?_
  cases h with
  | @allow r hs hr =>
    rw [hs.skipLayout_eq_cons (by decide)]
    exact ⟨r, rfl, hr.skipLayout_eq⟩
  | @deny r hs hr =>
    rw [hs.skipLayout_eq_cons (by decide)]
    exact ⟨r, rfl, hr.skipLayout_eq⟩
  | @expression t r e hs h hr =>
    have hends : Ends (.chain .or) r := by
      intro c hc
      rw [hr.skipLayout_eq] at hc
      cases hc
    have hsign : ∀ c ∈ t.head?, c ≠ '*' ∧ c ≠ '!' := by
      intro c hc
      have hc := h.head c hc
      constructor <;> rintro rfl <;> revert hc <;> decide
    refine ⟨r, ?_, hr.skipLayout_eq⟩
    rw [h.skipLayout_eq hs, label_eq_disjunction hsign]
    exact (h.reached (Nat.le_refl _)).found hends

/-- **The texts that are read as labels are exactly those of the grammar**, and no text is a label
for two expressions. -/
theorem parse_exactly_labels (text : List Char) (e : Expr) :
    (Expr.parse text = .ok e ↔ IsLabel text e) ∧
      ∀ f, IsLabel text e → IsLabel text f → e = f := by
  refine ⟨⟨isLabel_of_parse, IsLabel.parse_eq_ok⟩, fun f he hf => ?_⟩
  exact Except.ok.inj (he.parse_eq_ok.symm.trans hf.parse_eq_ok)

/-- A text with brackets, quotes and a comment, and the only expression that it is a label for. -/
theorem parse_exactly_labels_commented :
    let text := "('b c' | a >= .5e2) # first\n && d == TRUE".toList
    let e : Expr := .and (.bracket (.or (.holds "b c") (.relation "a" .ge (.text ".5e2"))))
      (.relation "d" .eq (.flag true))
    Expr.parse text = .ok e ∧ IsLabel text e ∧ ∀ f, IsLabel text f → e = f := by
  intro text e
  have hparse : Expr.parse text = .ok e := rfl
  have hlabel : IsLabel text e := (parse_exactly_labels text e).1.1 hparse
  exact ⟨hparse, hlabel, fun f => (parse_exactly_labels text e).2 f hlabel⟩

end Grammar

end Clearance
