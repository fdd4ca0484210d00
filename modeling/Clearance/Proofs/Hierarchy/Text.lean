import Clearance.Hierarchy
import Clearance.Proofs.Grammar.Items
import Clearance.Proofs.Grammar.Printed
import Clearance.Proofs.Node.Canonical
import Clearance.Proofs.Running

/-!
# Texts of hierarchies

The grammar of hierarchies, and the printed form of a hierarchy as a text of this grammar. A text is
cut at its first colon before anything else is read, also if that colon stands in quotes; and the
part before it loses the white space at its two ends, also if that is more than layout. A hierarchy
has neither a colon nor white space in its name, so the printed name is what is found before the
first colon, whatever quotes and escapes it has. The values may have both, since they come after
that colon.

## Main definitions

* `Clearance.Hierarchy.IsValue` — the grammar of values in a list.
* `Clearance.Hierarchy.Declarable` — hierarchies that a text can declare.

## Main results

* `Clearance.Hierarchy.parseValues_eq_ok_iff`, `Clearance.Hierarchy.parse_eq_ok_iff` — the texts
  that are read as values and as hierarchies.
* `Clearance.Hierarchy.of_parse`, `Clearance.Hierarchy.parse_chars` — what was read can be declared,
  and what can be declared is read back.
* `Clearance.Hierarchy.printed_hierarchies_read_back`
-/

namespace Clearance

open Grammar Lexeme

namespace Hierarchy

variable {h h' : Hierarchy} {a : Attribute} {v : Value} {vs : List Value} {c : Char}
  {name values s r : List Char}

/-! ### The grammar -/

/-- `IsValue s v r`: the text `s` is the value `v`, and then `r`. -/
def IsValue (s : List Char) (v : Value) (r : List Char) : Prop := ∃ w, IsConstant w v ∧ s = w ++ r

theorem isValue_append {w : List Char} (h : IsConstant w v) (r : List Char) :
    IsValue (w ++ r) v r :=
  ⟨w, h, rfl⟩

theorem readsItems_value : ReadsItems value IsValue where
  sound := isConstant_of_value
  complete := by
    rintro s v r ⟨w, hw, rfl⟩ hr
    exact hw.value_append hr.breaks
  head := by
    rintro s v r ⟨w, hw, rfl⟩ c hc
    exact (hw.head c hc).1
  length_le := by
    rintro s v r ⟨w, -, rfl⟩
    simp

/-- **The texts that are read as values are exactly those of the grammar.** -/
theorem parseValues_eq_ok_iff : parseValues s = .ok vs ↔ IsList IsValue s vs := by
  rw [parseValues, whole_eq_ok, closeLayout_eq_found, ← readsItems_value.exists_items_iff]

/-- A whole text is read as a name if it is one. -/
theorem parseName_eq_ok_iff : parseName s = .ok a ↔ IsAttribute s a := by
  rw [parseName, whole_eq_ok]
  constructor
  · intro h
    obtain ⟨w, hw, rfl⟩ := isAttribute_of_attributeName h
    rwa [List.append_nil]
  · intro h
    have hread := h.attributeName_append (r := []) (separates_of_end rfl).breaks
    rwa [List.append_nil] at hread

/-! ### Hierarchies -/

/-- What is accepted is kept as it is; its name has neither white space nor a colon. -/
theorem of_ofValues (h : ofValues a vs = .ok h') :
    h' = ⟨a, vs⟩ ∧ ∀ c ∈ a.toList, Text.isBlank c = false ∧ c ≠ ':' := by
  unfold ofValues at h
  split at h
  · cases h
  split at h
  · cases h
  split at h
  · cases h
  next hblank hcolon =>
  split at h
  · cases h
  refine ⟨(Except.ok.inj h).symm, fun c hc => ⟨?_, ?_⟩⟩
  · exact Bool.eq_false_iff.2 fun hc' => hblank (List.any_eq_true.2 ⟨c, hc, hc'⟩)
  · rintro rfl
    exact hcolon (List.contains_iff_mem.2 hc)

theorem lift_bind_eq_ok {α β : Type} {x : Except TextFault α} {k : α → Except Error β} {b : β} :
    (liftM x >>= k : Except Error β) = .ok b ↔ ∃ a, x = .ok a ∧ k a = .ok b :=
  bind_eq_ok.trans (exists_congr fun _ => and_congr_left' mapError_eq_ok)

/-- A text that is cut at its first colon. -/
theorem cut_append (hname : ':' ∉ name) (values : List Char) :
    (name ++ ':' :: values).takeWhile (· ≠ ':') = name ∧
      (name ++ ':' :: values).dropWhile (· ≠ ':') = ':' :: values := by
  have hall : ∀ c ∈ name, decide (c ≠ ':') = true := fun c hc => by
    simpa using fun h : c = ':' => hname (h ▸ hc)
  constructor
  · rw [List.takeWhile_append_of_pos hall]
    simp
  · rw [List.dropWhile_append_of_pos hall]
    simp

theorem exists_cut (h : s.dropWhile (· ≠ ':') = c :: values) :
    s = s.takeWhile (· ≠ ':') ++ ':' :: values ∧ ':' ∉ s.takeWhile (· ≠ ':') := by
  obtain rfl : c = ':' := by
    have hnot := List.head?_dropWhile_not (fun c : Char => decide (c ≠ ':')) s
    rw [h] at hnot
    simpa using hnot
  refine ⟨?_, fun hmem => ?_⟩
  · rw [← h, List.takeWhile_append_dropWhile]
  · simpa using List.mem_takeWhile_imp hmem

/-- **The texts that are read as hierarchies:** a name, a colon and values; the name has no colon,
and white space around it is no part of it. -/
theorem parse_eq_ok_iff : parse s = .ok h ↔
    ∃ name values a vs, s = name ++ ':' :: values ∧ ':' ∉ name ∧
      IsAttribute (Text.trimBlank name) a ∧ IsList IsValue values vs ∧ ofValues a vs = .ok h := by
  constructor
  · intro hparse
    unfold parse at hparse
    split at hparse
    · cases hparse
    · next c values hcut =>
      obtain ⟨a, ha, hparse⟩ := lift_bind_eq_ok.1 hparse
      obtain ⟨vs, hvs, hparse⟩ := lift_bind_eq_ok.1 hparse
      obtain ⟨hs, hname⟩ := exists_cut hcut
      exact ⟨_, values, a, vs, hs, hname, parseName_eq_ok_iff.1 ha,
        parseValues_eq_ok_iff.1 hvs, hparse⟩
  · rintro ⟨name, values, a, vs, rfl, hname, ha, hvs, hparse⟩
    obtain ⟨hfront, hback⟩ := cut_append hname values
    simp only [parse, hfront, hback]
    exact lift_bind_eq_ok.2 ⟨a, parseName_eq_ok_iff.2 ha,
      lift_bind_eq_ok.2 ⟨vs, parseValues_eq_ok_iff.2 hvs, hparse⟩⟩

/-! ### Printed hierarchies -/

/-- A character of a printed name is one of the name, or one that quotes and escapes consist of. -/
theorem mem_chars (hc : c ∈ Attribute.chars a) : c ∈ a.toList ∨ c ∈ ['"', '\\', 'n', 't'] := by
  have hescape {d : Char} (hc : c ∈ escapeChar d) : c = d ∨ c ∈ ['"', '\\', 'n', 't'] := by
    unfold escapeChar at hc
    split at hc <;> simp only [List.mem_cons, List.not_mem_nil, or_false] at hc ⊢ <;> grind
  unfold Attribute.chars at hc
  split at hc
  · exact .inl hc
  · rw [quotedChars, List.mem_cons, List.mem_append, List.mem_singleton, List.mem_flatMap] at hc
    rcases hc with rfl | ⟨d, hd, hc⟩ | rfl
    · exact .inr List.mem_cons_self
    · rcases hescape hc with rfl | hc
      · exact .inl hd
      · exact .inr hc
    · exact .inr List.mem_cons_self

/-- A printed name has neither white space nor a colon if the name has none. -/
theorem forall_mem_chars (ha : ∀ c ∈ a.toList, Text.isBlank c = false ∧ c ≠ ':') :
    ∀ c ∈ Attribute.chars a, Text.isBlank c = false ∧ c ≠ ':' := by
  have hescape : ∀ c ∈ ['"', '\\', 'n', 't'], Text.isBlank c = false ∧ c ≠ ':' :=
    List.all_iff_forall_prop.1 (by decide)
  exact fun c hc => (mem_chars hc).elim (ha c) (hescape c)

/-- **Printed values are a text of the grammar.** -/
theorem isList_valuesChars (hne : vs ≠ []) (h : ∀ v ∈ vs, v.NoFlagText) :
    IsList IsValue (valuesChars vs) vs := by
  suffices hitems : ∃ t, valuesChars vs = ' ' :: t ∧ Items IsValue t vs [] by
    obtain ⟨t, ht, hitems⟩ := hitems
    rw [ht]
    exact .intro (.space (by decide) (.nothing _)) hitems (.nothing _)
  induction vs with
  | nil => exact absurd rfl hne
  | cons v vs ih =>
    obtain ⟨hv, hvs⟩ := List.forall_mem_cons.1 h
    have hvalue := isValue_append (isConstant_chars_of_noFlagText hv)
    cases vs with
    | nil => exact ⟨v.chars, rfl, .one (by simpa using hvalue [])⟩
    | cons w vs =>
      obtain ⟨t, ht, hitems⟩ := ih (List.cons_ne_nil _ _) hvs
      refine ⟨v.chars ++ ',' :: ' ' :: t, by rw [valuesChars, ht], ?_⟩
      exact .more (hvalue _) (.nothing _) (.space (by decide) (.nothing _)) hitems

/-- Whether a text can declare what a hierarchy has: there is a value, the attribute is not named
like a truth value, and no text among the values spells one. -/
def Declarable (h : Hierarchy) : Prop :=
  h.values ≠ [] ∧ (h.attr ≠ "true" ∧ h.attr ≠ "false") ∧ ∀ v ∈ h.values, v.NoFlagText

/-- **What was read from a text is accepted, and can be declared by one.** -/
theorem of_parse (h' : parse s = .ok h) : ofValues h.attr h.values = .ok h ∧ h.Declarable := by
  obtain ⟨name, values, a, vs, -, -, ha, hvs, hof⟩ := parse_eq_ok_iff.1 h'
  obtain ⟨rfl, -⟩ := of_ofValues hof
  have hne := hvs.ne_nil
  obtain ⟨-, hitems, -⟩ := hvs
  refine ⟨hof, hne, ha.2, hitems.forall_mem ?_⟩
  rintro s v r ⟨w, hw, -⟩
  exact hw.noFlagText

/-- **A printed hierarchy is read back**, if it is accepted and a text can declare it. -/
theorem parse_chars (h' : ofValues h.attr h.values = .ok h) (hd : h.Declarable) :
    parse h.chars = .ok h := by
  obtain ⟨hne, hname, hvalues⟩ := hd
  have hchars := forall_mem_chars (of_ofValues h').2
  have htrim : Text.trimBlank (Attribute.chars h.attr) = Attribute.chars h.attr :=
    Text.trimBlank_eq_self fun c hc => (hchars c hc).1
  exact parse_eq_ok_iff.2 ⟨Attribute.chars h.attr, valuesChars h.values, h.attr, h.values, rfl,
    fun hc => (hchars _ hc).2 rfl, htrim.symm ▸ isAttribute_chars hname,
    isList_valuesChars hne hvalues, h'⟩

/-- **Printed hierarchies are read back**, with the same values in the same order. This is so of all
that were read from a text. One that was made of a name and values, and accepted, has them as they
are; it is read back exactly if there is a value, the name is not that of a truth value, and no text
among the values spells one. -/
theorem printed_hierarchies_read_back :
    (∀ text h, parse text = .ok h → parse h.chars = .ok h) ∧
    ∀ a vs h, ofValues a vs = .ok h → h = ⟨a, vs⟩ ∧ (parse h.chars = .ok h ↔
      vs ≠ [] ∧ (a ≠ "true" ∧ a ≠ "false") ∧ ∀ v ∈ vs, v.NoFlagText) := by
  constructor
  · intro text h hparse
    obtain ⟨haccepted, hdeclarable⟩ := of_parse hparse
    exact parse_chars haccepted hdeclarable
  · intro a vs h haccepted
    obtain ⟨rfl, -⟩ := of_ofValues haccepted
    exact ⟨rfl, fun hparse => (of_parse hparse).2, parse_chars (h := ⟨a, vs⟩) haccepted⟩

/-- A name with quotes in it, and values with a colon, a comma and the sign of a comment. -/
theorem printed_hierarchies_read_back_quoted :
    let text := "'cost-\"x\"' : 'a:b, c#', .5 # in the middle\n, TRUE, Top".toList
    let printed := "\"cost-\\\"x\\\"\": \"a:b, c#\", .5, true, Top".toList
    let h : Hierarchy := ⟨"cost-\"x\"", [.text "a:b, c#", .text ".5", .flag true, .text "Top"]⟩
    parse text = .ok h ∧ ofValues h.attr h.values = .ok h ∧ h.chars = printed ∧
      parse printed = .ok h ∧
      h.values ≠ [] ∧ (h.attr ≠ "true" ∧ h.attr ≠ "false") ∧ ∀ v ∈ h.values, v.NoFlagText := by
  intro text printed h
  have hparse : parse text = .ok h := rfl
  have hprinted : h.chars = printed := by decide +kernel
  have haccepted : ofValues h.attr h.values = .ok h := (of_parse hparse).1
  have hread : parse printed = .ok h := hprinted ▸ printed_hierarchies_read_back.1 text h hparse
  exact ⟨hparse, haccepted, hprinted, hread,
    (printed_hierarchies_read_back.2 _ _ h haccepted).2.1 (hprinted.symm ▸ hread)⟩

end Hierarchy

end Clearance
