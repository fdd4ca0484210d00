import Clearance.Proofs.Grammar.Printed

/-!
# Printed expressions that are not read

The reader takes a label from the front of a text as far as it goes. It *stalls* before something
that is no operand: before a name of a truth value, and before what always allows or always denies.
What stands before that is read, and the connective after it is left where it is; so nothing is read
of the brackets around it, if there are any, and the label does not end with the text.

A printed expression is read as far as its first part that is no operand. So it is read as a whole
only if all of its parts are operands, or if it is one of the two expressions that always allow or
always deny.

## Main definitions

* `Clearance.Grammar.NoOperand` — texts from whose front no operand is read.
* `Clearance.Grammar.Stalls` — texts in which the reader comes to one.

## Main results

* `Clearance.Grammar.Stalls.halts` — what the reader does there.
* `Clearance.Grammar.stalls_chars` — printed expressions.
* `Clearance.Grammar.exists_parse_chars_iff` — which printed expressions are read.
-/

namespace Clearance

open Grammar Lexeme

namespace Grammar

variable {p : Phrase} {j k : Connective} {e f : Expr} {c : Char} {n : Nat} {a : Attribute}
  {s r t u : List Char}

/-! ### Texts without an operand -/

/-- A text from whose front no operand is read. No layout is skipped in it either. -/
structure NoOperand (s : List Char) : Prop where
  /-- The text does not begin with layout. -/
  head : ∀ c ∈ s.head?, c ∉ spaces ∧ c ≠ '#'
  /-- No operand is read, if the reader may go as deep as the text is long. -/
  absent {n : Nat} (hn : s.length ≤ n) : readPhrase n .operand s = .absent

theorem name_eq_absent (h : ∀ c ∈ s.head?, isWordStart c = false ∧ c ≠ '"' ∧ c ≠ '\'') :
    name s = .absent := by
  rw [name, word?_eq_none fun c hc => (h c hc).1]
  exact quoted_eq_absent fun c hc => (h c hc).2

/-- Nothing is read where brackets and names are missing. -/
theorem noOperand_cons (hc : c ∈ ['*', '!', ')', '&', '|']) (r : List Char) :
    NoOperand (c :: r) := by
  have hstart : ∀ x ∈ ['*', '!', ')', '&', '|'], (x ∉ spaces ∧ x ≠ '#') ∧ x ≠ '(' ∧
      isWordStart x = false ∧ x ≠ '"' ∧ x ≠ '\'' := List.all_iff_forall_prop.1 (by decide)
  obtain ⟨hlayout, hbracket, hname⟩ := hstart c hc
  have hhead {q : Char → Prop} (h : q c) : ∀ x ∈ (c :: r).head?, q x :=
    fun x hx => Option.some.inj hx ▸ h
  refine ⟨hhead hlayout, fun {n} hn => ?_⟩
  show operand (disjunction n) (c :: r) = .absent
  rw [operand, bracketed_eq_absent (hhead hbracket), Reading.orElse, relation, attributeName,
    name_eq_absent (hhead hname)]
  rfl

/-- A name of a truth value is no attribute. -/
theorem noOperand_keyword (ha : a = "true" ∨ a = "false") (r : List Char) :
    NoOperand (a.chars ++ r) := by
  have hkeyword : isKeyword a.toList = true := by
    rcases ha with rfl | rfl <;> decide
  have hquoted : a.chars = quotedChars a.toList := by
    rw [Attribute.chars, isBareAttribute, hkeyword]
    rfl
  have hread : Lexeme.quoted (a.chars ++ r) = .found a.toList r :=
    quoted_eq_found_iff.2 ⟨_, hquoted ▸ isQuoted_quotedChars _, rfl⟩
  have hhead : ∀ c ∈ (a.chars ++ r).head?, c = '"' := by
    rw [hquoted]
    exact fun c hc => (Option.some.inj hc).symm
  refine ⟨fun c hc => hhead c hc ▸ by decide, fun {n} hn => ?_⟩
  have hbracket : bracketed (disjunction n) (a.chars ++ r) = .absent :=
    bracketed_eq_absent fun c hc => hhead c hc ▸ by decide
  have hword : word? (a.chars ++ r) = none := word?_eq_none fun c hc => hhead c hc ▸ by decide
  show operand (disjunction n) (a.chars ++ r) = .absent
  rw [operand, hbracket, Reading.orElse, relation, attributeName, name, hword]
  show ((Reading.absent.orElse fun _ => Lexeme.quoted (a.chars ++ r)).bind _).bind _ = _
  rw [Reading.orElse, hread, Reading.bind, if_pos hkeyword]
  rfl

/-! ### Where the reader stalls -/

/-- `Stalls p s`: a phrase of the kind `p` is read from the text `s` up to something that is no
operand. -/
inductive Stalls : Phrase → List Char → Prop
  /-- The text begins with it. -/
  | operand {s : List Char} (h : NoOperand s) : Stalls .operand s
  /-- It is in the first item of a chain. -/
  | first {k : Connective} {s : List Char} (h : Stalls k.item s) : Stalls (.chain k) s
  /-- It is in an item of a chain that others stand before. -/
  | later {k : Connective} {s t : List Char} {e : Expr}
    (h : Spells (.chain k) s e (k.separator ++ t)) (ht : Stalls k.item t) : Stalls (.chain k) s

/-- The connectives that join phrases of a kind. -/
def Phrase.connectives : Phrase → List Connective
  | .operand => []
  | .chain .and => [.and]
  | .chain .or => [.and, .or]

/-- What the reader does where it stalls: it finds nothing, or it stops before a connective. -/
def Halts (p : Phrase) (x : Reading Expr) : Prop :=
  x = .absent ∨ ∃ e, ∃ k ∈ p.connectives, ∃ t, x = .found e (k.separator ++ t)

theorem Stalls.head (h : Stalls p s) : ∀ c ∈ s.head?, c ∉ spaces ∧ c ≠ '#' := by
  induction h with
  | operand h => exact h.head
  | first h ih => exact ih
  | later h ht ih => exact fun c hc => (h.head_ne c hc).1

theorem skipLayout_separator (k : Connective) (t : List Char) :
    skipLayout (k.separator ++ t) = k.mark :: k.mark :: ' ' :: t := by
  cases k <;> rfl

/-- A chain does not go on with a connective of another kind. -/
theorem chain_separator {item : List Char → Reading Expr} {fuel : Nat} (hjk : j ≠ k) :
    chain item k.sign? k.join fuel e (j.separator ++ t) = .found e (j.separator ++ t) := by
  have hmark : j.mark ≠ k.mark := by
    cases j <;> cases k <;> first | exact absurd rfl hjk | decide
  cases fuel with
  | zero => rfl
  | succ fuel =>
    have hnone : k.sign? (skipLayout (j.separator ++ t)) = none := by
      rw [skipLayout_separator]
      exact sign?_eq_none fun c hc => Option.some.inj hc ▸ hmark
    rw [chain, hnone]

theorem ne_of_mem_connectives (hj : j ∈ k.item.connectives) : j ≠ k := by
  cases k with
  | and => cases hj
  | or =>
    cases List.mem_singleton.1 hj
    nofun

theorem mem_connectives (k : Connective) : k ∈ (Phrase.chain k).connectives := by
  cases k <;> simp [Phrase.connectives]

theorem mem_connectives_of_item (hj : j ∈ k.item.connectives) :
    j ∈ (Phrase.chain k).connectives := by
  cases k with
  | and => cases hj
  | or => exact List.mem_cons.2 (.inl (List.mem_singleton.1 hj))

/-- **Where the reader stalls, it finds nothing or stops before a connective.** -/
theorem Stalls.halts (h : Stalls p s) : ∀ {n}, s.length ≤ n → Halts p (readPhrase n p s) := by
  induction h with
  | operand h => exact fun hn => .inl (h.absent hn)
  | @first k s h ih =>
    intro n hn
    rw [readPhrase_chain]
    rcases ih hn with hread | ⟨e, j, hj, t, hread⟩
    · rw [hread]
      exact .inl rfl
    · rw [hread, Reading.bind, chain_separator (ne_of_mem_connectives hj)]
      exact .inr ⟨e, j, mem_connectives_of_item hj, t, rfl⟩
  | @later k s t e h ht ih =>
    intro n hn
    have hlayout : Layout (k.separator ++ t) ([k.mark, k.mark] ++ ' ' :: t) :=
      .space (by decide) (.nothing _)
    obtain ⟨fuel, hfuel, hread⟩ := h.reached hn (ends_item hlayout List.mem_cons_self)
    have hlength := h.length_le
    rw [List.length_append] at hfuel hlength
    obtain ⟨fuel, rfl⟩ : ∃ m, fuel = m + 1 :=
      Nat.exists_eq_succ_of_ne_zero (by simp [Connective.separator] at hfuel; omega)
    have hsign : k.sign? (skipLayout (k.separator ++ t)) = some (' ' :: t) := by
      rw [skipLayout_separator]
      cases k <;> rfl
    have hskip : skipLayout (' ' :: t) = t :=
      (skipLayout_cons (by decide)).trans (skipLayout_eq_self ht.head)
    rw [hread, chain, hsign]
    dsimp only
    rw [hskip]
    rcases ih (n := n) (by omega) with hitem | ⟨f, j, hj, u, hitem⟩
    · rw [hitem]
      exact .inr ⟨e, k, mem_connectives k, t, rfl⟩
    · rw [hitem]
      dsimp only
      rw [chain_separator (ne_of_mem_connectives hj)]
      exact .inr ⟨_, j, mem_connectives_of_item hj, u, rfl⟩

/-- Nothing is read of brackets in which the reader stalls. -/
theorem Stalls.bracket (h : Stalls (.chain .or) s) : NoOperand ('(' :: s) := by
  refine ⟨fun c hc => Option.some.inj hc ▸ by decide, fun {n} hn => ?_⟩
  obtain ⟨n, rfl⟩ : ∃ m, n = m + 1 := Nat.exists_eq_succ_of_ne_zero (by rintro rfl; cases hn)
  have hbracket : bracketed (disjunction (n + 1)) ('(' :: s) = .absent := by
    rw [bracketed, skipLayout_eq_self h.head]
    rcases h.halts (Nat.le_of_succ_le_succ hn) with hread | ⟨e, k, -, t, hread⟩
    · rw [show disjunction (n + 1) s = _ from hread]
      rfl
    · rw [show disjunction (n + 1) s = _ from hread, Reading.bind, skipLayout_separator]
      cases k <;> rfl
  show Grammar.operand (disjunction (n + 1)) ('(' :: s) = Reading.absent
  rw [Grammar.operand, hbracket, Reading.orElse, relation, attributeName, name_eq_absent]
  · rfl
  · exact fun c hc => Option.some.inj hc ▸ by decide

/-- A chain that stalls stalls as well after others. -/
theorem Stalls.append (hs : Spells (.chain k) s e (k.separator ++ t)) (ht : Stalls (.chain k) t) :
    Stalls (.chain k) s := by
  generalize hp : Phrase.chain k = p at ht
  cases ht with
  | operand => cases hp
  | first h =>
    cases hp
    exact .later hs h
  | later h h' =>
    cases hp
    exact .later (hs.append_separator h) h'

/-- Every phrase that stalls stalls as a disjunction. -/
theorem Stalls.toDisjunction (h : Stalls p s) : Stalls (.chain .or) s := by
  match p with
  | .operand => exact .first (.first (k := .and) h)
  | .chain .and => exact .first h
  | .chain .or => exact h

/-! ### Printed expressions -/

/-- A printed disjunction under a conjunction stalls with its brackets. -/
theorem stalls_operandChars (h : ∀ u, Stalls e.phrase (e.chars ++ u)) (u : List Char) :
    Stalls (.chain .and) (operandChars e.isOr e.chars ++ u) := by
  cases e with
  | or l r =>
    have hbracket : NoOperand ('(' :: ((Expr.or l r).chars ++ ')' :: u)) := (h (')' :: u)).bracket
    show Stalls _ ('(' :: ((Expr.or l r).chars ++ [')']) ++ u)
    rw [List.cons_append, List.append_assoc]
    exact .first (.operand hbracket)
  | and l r => exact h u
  | _ => exact .first (h u)

/-- **A printed expression stalls**, whatever comes after it, if it cannot be read as a part of
others. -/
theorem stalls_chars : ∀ {e : Expr}, ¬ e.IsInner → ∀ u, Stalls e.phrase (e.chars ++ u)
  | .holds a, h, u => by
    have hname : a = "true" ∨ a = "false" := by
      by_contra hname
      exact h ⟨not_or.1 hname, rfl⟩
    exact .operand (noOperand_keyword hname u)
  | .relation a op v, h, u => by
    have hname : a = "true" ∨ a = "false" := by
      by_contra hname
      exact h ⟨not_or.1 hname, rfl⟩
    rw [Expr.chars, List.append_assoc, List.append_assoc]
    exact .operand (noOperand_keyword hname _)
  | .and e f, h, u => by
    rw [Expr.chars, List.append_assoc, List.append_assoc]
    by_cases he : e.IsInner
    · have hf : ¬ f.IsInner := fun hf => h (Expr.isInner_and.2 ⟨he, hf⟩)
      exact .append (spells_operandChars (spells_chars he) _)
        (stalls_operandChars (stalls_chars hf) u)
    · exact stalls_operandChars (stalls_chars he) _
  | .or e f, h, u => by
    rw [Expr.chars, List.append_assoc, List.append_assoc]
    by_cases he : e.IsInner
    · have hf : ¬ f.IsInner := fun hf => h (Expr.isInner_or.2 ⟨he, hf⟩)
      exact .append (spells_chars he _).toDisjunction (stalls_chars hf u).toDisjunction
    · exact (stalls_chars he _).toDisjunction
  | .bracket e, h, u => by
    have hinner : Stalls (.chain .or) (e.chars ++ ')' :: u) :=
      (stalls_chars (e := e) h _).toDisjunction
    rw [Expr.chars, List.cons_append, List.append_assoc]
    exact .operand hinner.bracket
  | .allow, h, u => .operand (noOperand_cons (by decide) u)
  | .deny, h, u => .operand (noOperand_cons (by decide) u)

/-- An expression whose printed form, if it begins with the sign of everyone or of no one, ends with
it or goes on with a connective. -/
def SignFirst (e : Expr) : Prop :=
  e = .allow ∨ e = .deny ∨ ∀ c ∈ e.chars.head?, c = '*' ∨ c = '!' →
    ∃ (k : Connective) (t : List Char), e.chars = c :: (k.separator ++ t)

theorem SignFirst.append (h : SignFirst e) (k : Connective) (u : List Char) :
    ∀ c ∈ (e.chars ++ (k.separator ++ u)).head?, c = '*' ∨ c = '!' →
      ∃ (j : Connective) (t : List Char), e.chars ++ (k.separator ++ u)
        = c :: (j.separator ++ t) := by
  intro c hc hsign
  rcases h with rfl | rfl | h
  · cases hc
    exact ⟨k, u, rfl⟩
  · cases hc
    exact ⟨k, u, rfl⟩
  · match hchars : e.chars with
    | [] =>
      rw [hchars] at hc
      rcases hsign with rfl | rfl <;> exact absurd (Option.some.inj hc) (by decide)
    | d :: w =>
      rw [hchars] at hc
      obtain rfl : d = c := Option.some.inj hc
      obtain ⟨j, t, hgo⟩ := h d (by rw [hchars]; rfl) hsign
      exact ⟨j, t ++ (k.separator ++ u), by rw [← hchars, hgo, List.cons_append, List.append_assoc]⟩

theorem signFirst : ∀ e : Expr, SignFirst e
  | .holds a => by
    refine .inr (.inr fun c hc hsign => ?_)
    have hhead := (isName_chars a).head (r := []) c (by rwa [List.append_nil])
    rcases hsign with rfl | rfl <;> exact absurd hhead (by decide)
  | .relation a op v => by
    refine .inr (.inr fun c hc hsign => ?_)
    rw [Expr.chars, List.append_assoc] at hc
    have hhead := (isName_chars a).head c hc
    rcases hsign with rfl | rfl <;> exact absurd hhead (by decide)
  | .and e f => by
    have hprinted : (Expr.and e f).chars =
        operandChars e.isOr e.chars ++
          (Connective.and.separator ++ operandChars f.isOr f.chars) := by
      rw [Expr.chars, List.append_assoc]
      rfl
    refine .inr (.inr ?_)
    rw [hprinted]
    cases hor : e.isOr with
    | false => exact (signFirst e).append _ _
    | true =>
      intro c hc hsign
      rcases hsign with rfl | rfl <;> exact absurd (Option.some.inj hc) (by decide)
  | .or e f => by
    refine .inr (.inr ?_)
    rw [Expr.chars, List.append_assoc]
    exact (signFirst e).append .or _
  | .bracket e => by
    refine .inr (.inr fun c hc hsign => ?_)
    rcases hsign with rfl | rfl <;> exact absurd (Option.some.inj hc) (by decide)
  | .allow => .inl rfl
  | .deny => .inr (.inl rfl)

/-- **Which printed expressions are read:** those that can be read as parts of others, and the two
that always allow or always deny. -/
theorem exists_parse_chars_iff :
    (∃ f, Expr.parse e.chars = .ok f) ↔ e.IsInner ∨ e = .allow ∨ e = .deny := by
  refine ⟨fun ⟨f, hparse⟩ => ?_, fun h => ⟨e.reread, parse_chars h⟩⟩
  by_contra hnone
  obtain ⟨hinner, hallow, hdeny⟩ : ¬ e.IsInner ∧ e ≠ .allow ∧ e ≠ .deny := by
    simpa only [not_or] using hnone
  have hstalls := stalls_chars hinner []
  rw [List.append_nil] at hstalls
  obtain ⟨r, hlabel, hr⟩ := parse_eq_ok_iff.1 hparse
  rw [skipLayout_eq_self hstalls.head] at hlabel
  -- In both cases the label ends before a connective, which is no layout.
  suffices hrest : ∃ (k : Connective) (t : List Char), r = k.separator ++ t by
    obtain ⟨k, t, rfl⟩ := hrest
    rw [skipLayout_separator] at hr
    cases hr
  by_cases hsign : ∀ c ∈ e.chars.head?, c ≠ '*' ∧ c ≠ '!'
  · rw [label_eq_disjunction hsign] at hlabel
    rcases hstalls.toDisjunction.halts (Nat.le_refl _) with hread | ⟨g, k, -, t, hread⟩
    · rw [hread] at hlabel
      cases hlabel
    · rw [hread] at hlabel
      exact ⟨k, t, (Reading.found.inj hlabel).2.symm⟩
  · obtain ⟨c, hsign⟩ := not_forall.1 hsign
    obtain ⟨hc, hsign⟩ := Classical.not_imp.1 hsign
    have hsign : c = '*' ∨ c = '!' := Decidable.or_iff_not_not_and_not.2 hsign
    rcases signFirst e with h | h | h
    · exact absurd h hallow
    · exact absurd h hdeny
    · obtain ⟨k, t, hchars⟩ := h c hc hsign
      rw [hchars] at hlabel
      rcases hsign with rfl | rfl <;> exact ⟨k, t, (Reading.found.inj hlabel).2.symm⟩

end Grammar

end Clearance
