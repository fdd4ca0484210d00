import Clearance.Proofs.Grammar.Relation

/-!
# Lists of items

Attribute lists and hierarchies list items with commas between them and layout around the commas.
What an item is, is left open here: the grammar of lists is built over the grammar of its items, and
so is the reader. The reader finds an item where the grammar has one, if what follows after layout
is a comma or nothing; then it finds the list, and takes it up to its end.

The grammar looks at a text from item to item. So two lists with a comma between them are one list;
only the first of them may end in a comment, which has to be ended before the comma.

## Main definitions

* `Clearance.Grammar.Items`, `Clearance.Grammar.IsList` — the grammar of lists.
* `Clearance.Grammar.ReadsItems` — readers that follow the grammar of an item.

## Main results

* `Clearance.Grammar.ReadsItems.exists_items_iff` — the texts that are read as lists are those of
  the grammar.
* `Clearance.Grammar.IsList.join` — two lists with a line end and a comma between them.
-/

namespace Clearance.Grammar

open Lexeme

variable {α : Type} {P : List Char → α → List Char → Prop} {item : List Char → Reading α}
  {a : α} {l m : List α} {s t u v r : List Char}

/-! ### The grammar -/

/-- `Items P s l r`: the text `s` is the items `l` with commas between them, and then `r`. Of a
single item, `P` says so. -/
inductive Items (P : List Char → α → List Char → Prop) : List Char → List α → List Char → Prop
  /-- A single item. -/
  | one {s r : List Char} {a : α} (h : P s a r) : Items P s [a] r
  /-- An item, a comma and more items. -/
  | more {s t u v r : List Char} {a : α} {l : List α} (h : P s a t) (ht : Layout t (',' :: u))
      (hu : Layout u v) (hl : Items P v l r) : Items P s (a :: l) r

/-- `IsList P s l`: the text `s` is the items `l` with commas between them, and layout around
them. -/
inductive IsList (P : List Char → α → List Char → Prop) : List Char → List α → Prop
  | intro {s t r : List Char} {l : List α} (hs : Layout s t) (h : Items P t l r)
      (hr : Layout r []) : IsList P s l

theorem Items.ne_nil (h : Items P s l r) : l ≠ [] := by
  cases h <;> exact List.cons_ne_nil _ _

theorem IsList.ne_nil (h : IsList P s l) : l ≠ [] := by
  obtain ⟨-, h, -⟩ := h
  exact h.ne_nil

/-- What the grammar has for each item is so of all items of a list. -/
theorem Items.forall_mem {Q : α → Prop} (h : Items P s l r) (hQ : ∀ {s a r}, P s a r → Q a) :
    ∀ a ∈ l, Q a := by
  induction h with
  | one h => exact List.forall_mem_singleton.2 (hQ h)
  | more h ht hu hl ih => exact List.forall_mem_cons.2 ⟨hQ h, ih⟩

/-- **Two lists with a comma between them are one list.** -/
theorem Items.append (h : Items P s l t) (ht : Layout t (',' :: u)) (hu : Layout u v)
    (hv : Items P v m r) : Items P s (l ++ m) r := by
  induction h with
  | one h => exact .more h ht hu hv
  | more h ht' hu' hl ih => exact .more h ht' hu' (ih ht)

/-- More lines after a list leave it as it is, if that is so of its items. -/
theorem Items.append_line (hP : ∀ {s a r}, P s a r → ∀ u, P (s ++ '\n' :: u) a (r ++ '\n' :: u))
    (h : Items P s l r) (u : List Char) : Items P (s ++ '\n' :: u) l (r ++ '\n' :: u) := by
  induction h with
  | one h => exact .one (hP h u)
  | more h ht hu hl ih => exact .more (hP h u) (ht.append_line u) (hu.append_line u) ih

/-- **A text with a list, a line end, a comma and another text with a list is a text with both
lists.** -/
theorem IsList.join (hP : ∀ {s a r}, P s a r → ∀ u, P (s ++ '\n' :: u) a (r ++ '\n' :: u))
    (h : IsList P s l) (h' : IsList P t m) : IsList P (s ++ '\n' :: ',' :: t) (l ++ m) := by
  obtain ⟨hs, hl, hr⟩ := h
  obtain ⟨ht, hm, hr'⟩ := h'
  have hcomma : Layout ([] ++ '\n' :: ',' :: t) (',' :: t) := .space (by decide) (.nothing _)
  exact .intro (hs.append_line _)
    ((hl.append_line hP _).append ((hr.append_line _).trans hcomma) ht hm) hr'

/-! ### The reader -/

/-- A text that may stand after an item: after layout comes a comma, or nothing. -/
def Separates (r : List Char) : Prop := ∀ c ∈ (skipLayout r).head?, c = ','

theorem separates_of_comma (h : Layout r (',' :: u)) : Separates r := by
  intro c hc
  rw [h.skipLayout_eq_cons (by decide)] at hc
  exact (Option.some.inj hc).symm

theorem separates_of_end (h : skipLayout r = []) : Separates r := by
  intro c hc
  rw [h] at hc
  cases hc

theorem Separates.breaks (h : Separates r) : Breaks r :=
  (layout_skipLayout r).breaks fun c hc => by rw [h c hc]; decide

/-- A reader that follows the grammar of an item: what it finds is an item, and it finds an item
that stands in front of a comma or at the end. -/
structure ReadsItems (item : List Char → Reading α) (P : List Char → α → List Char → Prop) :
    Prop where
  /-- What is found is an item. -/
  sound {s : List Char} {a : α} {r : List Char} : item s = .found a r → P s a r
  /-- An item is found. -/
  complete {s : List Char} {a : α} {r : List Char} : P s a r → Separates r → item s = .found a r
  /-- No item begins with layout. -/
  head {s : List Char} {a : α} {r : List Char} : P s a r → ∀ c ∈ s.head?, c ∉ spaces ∧ c ≠ '#'
  /-- An item makes no text longer. -/
  length_le {s : List Char} {a : α} {r : List Char} : P s a r → r.length ≤ s.length

theorem moreItems_of_comma {fuel : Nat} (hcomma : skipLayout t = ',' :: u)
    (ha : item (skipLayout u) = .found a v) :
    moreItems item (fuel + 1) t = (moreItems item fuel v).map (a :: ·) := by
  simp only [moreItems, hcomma, ha]

namespace ReadsItems

variable (h : ReadsItems item P)
include h

theorem skipLayout_eq (ht : P t a r) (hs : Layout s t) : skipLayout s = t :=
  hs.skipLayout_eq.trans (skipLayout_eq_self (h.head ht))

theorem skipLayout_eq_of_items (ht : Items P t l r) (hs : Layout s t) : skipLayout s = t := by
  cases ht with
  | one ht => exact h.skipLayout_eq ht hs
  | more ht _ _ _ => exact h.skipLayout_eq ht hs

/-- What follows an item is found as a list that goes on from it. -/
theorem of_moreItems :
    ∀ {fuel : Nat} {s : List Char} {a : α} {t : List Char} {l : List α}, P s a t →
    moreItems item fuel t = .found l r → Items P s (a :: l) r := by
  intro fuel
  induction fuel with
  | zero =>
    intro s a t l hs hmore
    obtain ⟨rfl, rfl⟩ := Reading.found.inj hmore
    exact .one hs
  | succ fuel ih =>
    intro s a t l hs hmore
    rw [moreItems] at hmore
    split at hmore
    · next u hcomma =>
      split at hmore
      · next b v hb =>
        obtain ⟨l', hl', rfl⟩ := Reading.map_eq_found.1 hmore
        exact .more hs (hcomma ▸ layout_skipLayout t) (layout_skipLayout u) (ih (h.sound hb) hl')
      · obtain ⟨rfl, rfl⟩ := Reading.found.inj hmore
        exact .one hs
      · cases hmore
    · obtain ⟨rfl, rfl⟩ := Reading.found.inj hmore
      exact .one hs

/-- **What is found is a list.** -/
theorem of_items (hl : items item s = .found l r) : Items P s l r := by
  obtain ⟨a, t, ha, hrest⟩ := Reading.bind_eq_found.1 hl
  obtain ⟨l', hl', rfl⟩ := Reading.map_eq_found.1 hrest
  exact h.of_moreItems (h.sound ha) hl'

/-- A list is found up to its end: its first item is found, and then the others, if the reader may
go on for as long as the text is. -/
theorem exists_moreItems (hs : Items P s l r) (hr : skipLayout r = []) :
    ∃ a l' t, l = a :: l' ∧ item s = .found a t ∧
      ∀ {fuel}, t.length ≤ fuel → moreItems item fuel t = .found l' r := by
  induction hs with
  | @one s r a hs =>
    refine ⟨a, [], r, rfl, h.complete hs (separates_of_end hr), fun {fuel} _ => ?_⟩
    cases fuel with
    | zero => rfl
    | succ fuel => rw [moreItems, hr]
  | @more s t u v r a l hs ht hu hl ih =>
    obtain ⟨b, l', w, rfl, hb, hmore⟩ := ih hr
    refine ⟨a, b :: l', t, rfl, h.complete hs (separates_of_comma ht), fun {fuel} hfuel => ?_⟩
    have hlength : w.length < t.length := by
      have ht := ht.length_le
      have hu := hu.length_le
      have hw := h.length_le (h.sound hb)
      rw [List.length_cons] at ht
      omega
    obtain ⟨fuel, rfl⟩ : ∃ n, fuel = n + 1 := Nat.exists_eq_succ_of_ne_zero (by omega)
    have hcomma : skipLayout t = ',' :: u := ht.skipLayout_eq_cons (by decide)
    rw [moreItems_of_comma hcomma (h.skipLayout_eq_of_items hl hu ▸ hb), hmore (by omega)]
    rfl

/-- **A list is found**, if it ends the text. -/
theorem items_eq_found (hs : Items P s l r) (hr : skipLayout r = []) :
    items item s = .found l r := by
  obtain ⟨a, l', t, rfl, ha, hmore⟩ := h.exists_moreItems hs hr
  rw [items, ha, Reading.bind, hmore (Nat.le_refl _)]
  rfl

/-- **The texts that are read as lists are exactly those of the grammar.** -/
theorem exists_items_iff : (∃ r, items item (skipLayout s) = .found l r ∧ skipLayout r = []) ↔
    IsList P s l := by
  constructor
  · rintro ⟨r, hl, hr⟩
    exact .intro (layout_skipLayout s) (h.of_items hl) (hr ▸ layout_skipLayout r)
  · rintro ⟨hs, hl, hr⟩
    have hend := hr.skipLayout_eq
    exact ⟨_, by rw [h.skipLayout_eq_of_items hl hs, h.items_eq_found hl hend], hend⟩

end ReadsItems

end Clearance.Grammar
