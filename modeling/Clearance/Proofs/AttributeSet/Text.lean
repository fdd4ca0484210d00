import Clearance.Proofs.AttributeSet.Merging
import Clearance.Proofs.Grammar.Items
import Clearance.Proofs.Grammar.Printed

/-!
# Texts of attribute sets

The grammar of attribute lists, and the printed form of a set as a text of this grammar. An
attribute stands alone or has a value after an equality sign, and a printed attribute always has
one. What follows an attribute or a value in print is an equality sign, a comma or nothing, so no
name, word or number reaches over what was printed for it. The printed form has the attributes in
ascending order, each with its values in their order, and the set is made of them again in this
order.

Only a set that could come from a text can be read back: no attribute is named like a truth value,
and no text held as a value spells one.

## Main definitions

* `Clearance.AttributeSet.IsPair` — the grammar of attributes with their values.
* `Clearance.AttributeSet.Listable` — sets that a text can list.
* `Clearance.AttributeSet.Built` — sets that come from the empty set.

## Main results

* `Clearance.AttributeSet.parsePairs_eq_ok_iff` — the texts that are read as attribute lists are
  those of the grammar.
* `Clearance.AttributeSet.listable_of_parse`, `Clearance.AttributeSet.parse_chars`
* `Clearance.AttributeSet.built_sets_read_back`
-/

namespace Clearance

open Grammar Lexeme

namespace AttributeSet

variable {S : AttributeSet} {a : Attribute} {v : Value} {p : Attribute × Value}
  {l : List (Attribute × Value)} {w s t u r : List Char}

/-! ### The grammar -/

/-- `IsPair s p r`: the text `s` is an attribute, and a value that may follow it after an equality
sign, and then `r`. An attribute alone has the value true. -/
inductive IsPair : List Char → Attribute × Value → List Char → Prop
  | alone {w : List Char} {a : Attribute} (r : List Char) (ha : IsAttribute w a) :
      IsPair (w ++ r) (a, .flag true) r
  | assigned {w s t u r : List Char} {a : Attribute} {v : Value} (ha : IsAttribute w a)
      (hs : Layout s ('=' :: t)) (ht : Layout t (u ++ r)) (hv : IsConstant u v) :
      IsPair (w ++ s) (a, v) r

theorem IsPair.head (h : IsPair s p r) : ∀ c ∈ s.head?, c ∉ spaces ∧ c ≠ '#' := by
  have hname {w s : List Char} {a : Attribute} (ha : IsAttribute w a) :
      ∀ c ∈ (w ++ s).head?, c ∉ spaces ∧ c ≠ '#' := by
    have hnone : ∀ x ∈ '#' :: spaces, ¬(isWordStart x = true ∨ x = '"' ∨ x = '\'') :=
      List.all_iff_forall_prop.1 (by decide)
    intro c hc
    have hmem : c ∉ '#' :: spaces := fun hmem => hnone c hmem (ha.1.head c hc)
    rw [List.mem_cons, not_or] at hmem
    exact hmem.symm
  cases h with
  | alone r ha => exact hname ha
  | assigned ha hs ht hv => exact hname ha

theorem IsPair.length_le (h : IsPair s p r) : r.length ≤ s.length := by
  cases h with
  | alone r ha => simp
  | assigned ha hs ht hv =>
    have hs := hs.length_le
    have ht := ht.length_le
    simp only [List.length_append, List.length_cons] at hs ht ⊢
    omega

/-- More lines after an attribute leave it as it is. -/
theorem IsPair.append_line (h : IsPair s p r) (u : List Char) :
    IsPair (s ++ '\n' :: u) p (r ++ '\n' :: u) := by
  cases h with
  | alone r ha =>
    rw [List.append_assoc]
    exact .alone _ ha
  | assigned ha hs ht hv =>
    have ht := ht.append_line u
    rw [List.append_assoc] at ht ⊢
    exact .assigned ha (hs.append_line u) ht hv

/-- No attribute is named like a truth value, and no text spells one. -/
theorem IsPair.nameable (h : IsPair s p r) : (p.1 ≠ "true" ∧ p.1 ≠ "false") ∧ p.2.NoFlagText := by
  cases h with
  | alone r ha => exact ⟨ha.2, trivial⟩
  | assigned ha hs ht hv => exact ⟨ha.2, hv.noFlagText⟩

/-! ### The reader -/

theorem exists_of_assigned (h : assigned s = .found v r) :
    ∃ t u, Layout s ('=' :: t) ∧ Layout t (u ++ r) ∧ IsConstant u v := by
  unfold assigned at h
  split at h
  · next t ht =>
    obtain ⟨u, hu, hr⟩ := isConstant_of_value h
    exact ⟨t, u, ht ▸ layout_skipLayout s, hr ▸ layout_skipLayout t, hu⟩
  · cases h

theorem assigned_eq_found (hs : Layout s ('=' :: t)) (ht : Layout t (u ++ r)) (hv : IsConstant u v)
    (hr : Breaks r) : assigned s = .found v r := by
  have hsign : skipLayout s = '=' :: t := hs.skipLayout_eq_cons (by decide)
  have hconstant : skipLayout t = u ++ r :=
    ht.skipLayout_eq.trans (skipLayout_eq_self fun c hc => (hv.head c hc).1)
  simp only [assigned, hsign, hconstant, hv.value_append hr]

theorem assigned_eq_absent (hr : Separates r) : assigned r = .absent := by
  unfold assigned
  split
  · next t ht => exact absurd (hr '=' (by rw [ht]; rfl)) (by decide)
  · rfl

theorem isPair_of_pair (h : pair s = .found p r) : IsPair s p r := by
  obtain ⟨a, t, ha, htail⟩ := Reading.bind_eq_found.1 h
  obtain ⟨w, hw, rfl⟩ := isAttribute_of_attributeName ha
  obtain ⟨tail, hoptional, rfl⟩ := Reading.map_eq_found.1 htail
  rcases Reading.optional_eq_found.1 hoptional with ⟨v, hfound, rfl⟩ | ⟨-, rfl, rfl⟩
  · obtain ⟨t', u, hs, ht, hv⟩ := exists_of_assigned hfound
    exact .assigned hw hs ht hv
  · exact .alone _ hw

theorem IsPair.pair_eq_found (h : IsPair s p r) (hr : Separates r) : pair s = .found p r := by
  cases h with
  | alone r ha =>
    rw [pair, ha.attributeName_append hr.breaks, Reading.bind, assigned_eq_absent hr]
    rfl
  | @assigned w s t u r a v ha hs ht hv =>
    have hbreaks : Breaks s := hs.breaks fun c hc => Option.some.inj hc ▸ by decide
    rw [pair, ha.attributeName_append hbreaks, Reading.bind, assigned_eq_found hs ht hv hr.breaks]
    rfl

theorem readsItems_pair : ReadsItems pair IsPair where
  sound := isPair_of_pair
  complete := IsPair.pair_eq_found
  head := IsPair.head
  length_le := IsPair.length_le

/-- **The texts that are read as attribute lists are exactly those of the grammar,** and layout
alone, which lists nothing. -/
theorem parsePairs_eq_ok_iff :
    parsePairs s = .ok l ↔ IsList IsPair s l ∨ l = [] ∧ skipLayout s = [] := by
  rw [parsePairs, whole_eq_ok, closeLayout_eq_found, ← readsItems_pair.exists_items_iff]
  constructor
  · rintro ⟨t, h, ht⟩
    rcases Reading.orElse_eq_found.1 h with h | ⟨-, h⟩
    · exact .inl ⟨t, h, ht⟩
    · obtain ⟨rfl, rfl⟩ := Reading.found.inj h
      exact .inr ⟨rfl, (layout_skipLayout s).skipLayout_eq.trans ht⟩
  · rintro (⟨t, h, ht⟩ | ⟨rfl, hs⟩)
    · exact ⟨t, Reading.orElse_eq_found.2 (.inl h), ht⟩
    · exact ⟨[], by rw [hs]; rfl, rfl⟩

/-- **Two texts that list something list it together**, with a line end and a comma between them. -/
theorem parsePairs_join {m : List (Attribute × Value)} (hs : parsePairs s = .ok l) (hl : l ≠ [])
    (ht : parsePairs t = .ok m) (hm : m ≠ []) :
    parsePairs (s ++ '\n' :: ',' :: t) = .ok (l ++ m) := by
  have hs := (parsePairs_eq_ok_iff.1 hs).resolve_right fun h => hl h.1
  have ht := (parsePairs_eq_ok_iff.1 ht).resolve_right fun h => hm h.1
  exact parsePairs_eq_ok_iff.2 (.inl (hs.join IsPair.append_line ht))

/-- The set of a text is that of the list which the text has. -/
theorem parse_eq_ok_iff : parse s = .ok S ↔ ∃ l, parsePairs s = .ok l ∧ ofPairs l = S := by
  rw [parse]
  cases parsePairs s <;> simp [Except.map]

/-! ### Printed sets -/

/-- Whether a text can list what a set holds: no attribute is named like a truth value, and no text
that is held spells one. -/
def Listable (S : AttributeSet) : Prop :=
  ∀ p ∈ S.entries, (p.1 ≠ "true" ∧ p.1 ≠ "false") ∧ ∀ v ∈ p.2, v.NoFlagText

theorem isPair_chars (ha : a ≠ "true" ∧ a ≠ "false") (hv : v.NoFlagText) (r : List Char) :
    IsPair (Attribute.chars a ++ '=' :: (v.chars ++ r)) (a, v) r :=
  .assigned (isAttribute_chars ha) (.nothing _) (.nothing _) (isConstant_chars_of_noFlagText hv)

/-- **A printed list is a text of the grammar.** -/
theorem items_pairsChars : ∀ {l : List (Attribute × Value)}, l ≠ [] →
    (∀ p ∈ l, (p.1 ≠ "true" ∧ p.1 ≠ "false") ∧ p.2.NoFlagText) → Items IsPair (pairsChars l) l []
  | [], hne, _ => absurd rfl hne
  | [(a, v)], _, h => by
    obtain ⟨ha, hv⟩ := h (a, v) List.mem_cons_self
    have hpair := isPair_chars ha hv []
    rw [List.append_nil] at hpair
    exact .one hpair
  | (a, v) :: p :: l, _, h => by
    obtain ⟨hav, hl⟩ := List.forall_mem_cons.1 h
    rw [pairsChars, List.append_assoc, List.cons_append]
    exact .more (isPair_chars hav.1 hav.2 _) (.nothing _) (.space (by decide) (.nothing _))
      (items_pairsChars (List.cons_ne_nil _ _) hl)

theorem Listable.pairs (h : S.Listable) :
    ∀ p ∈ S.pairs, (p.1 ≠ "true" ∧ p.1 ≠ "false") ∧ p.2.NoFlagText := by
  intro p hp
  obtain ⟨⟨a, vs⟩, hentry, hp⟩ := List.mem_flatMap.1 hp
  obtain ⟨v, hv, rfl⟩ := List.mem_map.1 hp
  obtain ⟨ha, hvs⟩ := h _ hentry
  exact ⟨ha, hvs v hv⟩

theorem parsePairs_chars (h : S.Listable) : parsePairs S.chars = .ok S.pairs := by
  rw [parsePairs_eq_ok_iff, chars]
  by_cases hnone : S.pairs = []
  · rw [hnone]
    exact .inr ⟨rfl, rfl⟩
  · exact .inl (.intro (.nothing _) (items_pairsChars hnone h.pairs) (.nothing _))

/-- **A printed set is read back**, if a text can list what it holds. -/
theorem parse_chars (hS : S.WellFormed) (h : S.Listable) : parse S.chars = .ok S :=
  parse_eq_ok_iff.2 ⟨S.pairs, parsePairs_chars h, hS.ofPairs_pairs⟩

/-- **What was read from a text can be listed by one.** -/
theorem listable_of_parse (h : parse s = .ok S) : S.Listable := by
  obtain ⟨l, hl, rfl⟩ := parse_eq_ok_iff.1 h
  have hlisted : ∀ p ∈ l, (p.1 ≠ "true" ∧ p.1 ≠ "false") ∧ p.2.NoFlagText := by
    rcases parsePairs_eq_ok_iff.1 hl with ⟨-, hitems, -⟩ | ⟨rfl, -⟩
    · exact hitems.forall_mem fun hp => hp.nameable
    · exact fun p hp => nomatch hp
  rintro ⟨a, vs⟩ hmem
  have hheld : ∀ v ∈ vs, (a, v) ∈ l := fun v hv =>
    mem_get_ofPairs.1 (get_eq_of_mem_entries hmem ▸ hv)
  obtain ⟨v, hv⟩ := List.exists_mem_of_ne_nil vs (wellFormed_ofPairs l _ hmem).1
  exact ⟨(hlisted _ (hheld v hv)).1, fun v hv => (hlisted _ (hheld v hv)).2⟩

/-! ### Sets that operations build -/

/-- The sets that come from the empty set, by adding values, merging, dropping an attribute, and
reading. -/
inductive Built : AttributeSet → Prop
  | empty : Built .empty
  | add {S : AttributeSet} (h : Built S) (a : Attribute) (v : Value) : Built (S.add a v)
  | merge {S T : AttributeSet} (hS : Built S) (hT : Built T) : Built (S.merge T)
  | clear {S : AttributeSet} (h : Built S) (a : Attribute) : Built (S.clear a)
  | parse {text : List Char} {S : AttributeSet} (h : AttributeSet.parse text = .ok S) : Built S

theorem Built.wellFormed (h : Built S) : S.WellFormed := by
  induction h with
  | empty => exact wellFormed_empty
  | add h a v ih => exact ih.add a v
  | merge hS hT ih _ => exact ih.merge _
  | clear h a ih => exact ih.clear a
  | parse h =>
    obtain ⟨l, -, rfl⟩ := parse_eq_ok_iff.1 h
    exact wellFormed_ofPairs l

/-- **Built sets are well-formed and read back.** In a set that comes from the empty set, every
listed attribute has values and none of them twice. Merging puts the new values behind those that
are there; it is idempotent and associative, with the order of the values. The printed form of a set
is read as the same set if a text can list what it holds, as it can for every set that was read. -/
theorem built_sets_read_back {S : AttributeSet} (hS : Built S) :
    (∀ p ∈ S.entries, p.2 ≠ [] ∧ p.2.Nodup) ∧
    S.merge S = S ∧
    (∀ T, Built T →
      (∀ a, (S.merge T).get a = S.get a ++ (T.get a).filter fun v => v ∉ S.get a) ∧
      (S.merge T).merge T = S.merge T ∧
      ∀ U, Built U → (S.merge T).merge U = S.merge (T.merge U)) ∧
    (S.Listable → parse S.chars = .ok S) ∧
    ∀ text, parse text = .ok S → S.Listable := by
  have hwell := hS.wellFormed
  refine ⟨hwell, hwell.merge_self, fun T hT => ?_, parse_chars hwell, fun _ => listable_of_parse⟩
  have hT := hT.wellFormed
  exact ⟨hT.get_merge S, hwell.merge_merge_self hT, fun U hU => hwell.merge_assoc hT hU.wellFormed⟩

/-- A set that was read and then changed by all operations. In print one name has quotes, and one
value has a quote and a line feed in it. -/
theorem built_sets_read_back_cleared :
    let text := "b, role = admin, role='team lead' # two roles".toList
    let T : AttributeSet :=
      .ofPairs [("b", .flag true), ("role", .text "admin"), ("role", .text "team lead")]
    let S := ((T.add "cost centre" (.text ".5e2")).add "role" (.text "é: \"q\"\n")).clear "b"
    let printed :=
      "\"cost centre\"=.5e2, role=admin, role=\"team lead\", role=\"é: \\\"q\\\"\\n\"".toList
    parse text = .ok T ∧ Built S ∧ S.Listable ∧ S.merge S = S ∧ (T.merge S).merge S = T.merge S ∧
      S.chars = printed ∧ parse printed = .ok S := by
  intro text T S printed
  have hparse : parse text = .ok T := rfl
  have hT : Built T := .parse hparse
  have hS : Built S := ((hT.add _ _).add _ _).clear _
  have hprinted : S.chars = printed := rfl
  have hentries : S.entries = [("cost centre", [.text ".5e2"]),
    ("role", [.text "admin", .text "team lead", .text "é: \"q\"\n"])] := rfl
  have hlistable : S.Listable := by
    rw [Listable, hentries]
    decide
  obtain ⟨-, hself, -, hread, -⟩ := built_sets_read_back hS
  obtain ⟨-, -, hmerge, -⟩ := built_sets_read_back hT
  exact ⟨hparse, hS, hlistable, hself, (hmerge S hS).2.1, hprinted, hprinted ▸ hread hlistable⟩

end AttributeSet

end Clearance
