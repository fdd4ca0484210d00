import Mathlib.Data.List.Perm.Basic
import Clearance.BoundedCache

/-!
# Making room

The hand takes a mark from every slot that it passes, so when it has gone around and found no slot
to free, no marks are left, and the second time it frees the slot where it stands. The last entry
then moves into the free slot; up to their order, the entries are the old ones without one of them,
and the hand is left at one of their slots.

## Main definitions

* `Clearance.BoundedCache.entries` — the keys and values that are kept.
* `Clearance.BoundedCache.HandInside` — caches whose hand is at a slot.

## Main results

* `Clearance.BoundedCache.map_entry_sweep`, `Clearance.BoundedCache.countP_marked_sweep` — what the
  hand changes.
* `Clearance.BoundedCache.perm_removeAt`, `Clearance.BoundedCache.handInside_removeAt` — what a
  freed slot leaves.
* `Clearance.BoundedCache.evictOnce_cases` — one round of the hand.
* `Clearance.BoundedCache.exists_perm_evict` — one entry makes room.
-/

namespace Clearance

/-- The key and the value of an entry. -/
def Slot.entry {κ ν : Type} (s : Slot κ ν) : κ × ν := (s.key, s.value)

namespace BoundedCache

open scoped List

variable {κ ν : Type} {c : BoundedCache κ ν} {slots slots' : List (Slot κ ν)} {fuel i j : Nat}

/-- The keys and values that are kept, in order. -/
def entries (c : BoundedCache κ ν) : List (κ × ν) := c.slots.map Slot.entry

theorem length_entries (c : BoundedCache κ ν) : c.entries.length = c.slots.length :=
  List.length_map _

/-! ### The hand -/

/-- Moving the hand changes marks only. -/
theorem map_entry_sweep (fuel i : Nat) (slots : List (Slot κ ν)) :
    (sweep fuel i slots).2.map Slot.entry = slots.map Slot.entry := by
  induction fuel generalizing i slots with
  | zero => rfl
  | succ fuel ih =>
    cases hi : slots[i]? with
    | none => simp only [sweep, hi]
    | some s =>
      simp only [sweep, hi]
      split
      · obtain ⟨hlt, rfl⟩ := List.getElem?_eq_some_iff.1 hi
        have hlt' : i < (slots.map Slot.entry).length := by rwa [List.length_map]
        have hentry : (slots.map Slot.entry)[i] = slots[i].entry := List.getElem_map _
        have hsame : Slot.entry { slots[i] with marked := false } = slots[i].entry := rfl
        rw [ih, List.map_set, hsame, ← hentry, List.set_getElem_self]
      · rfl

theorem length_of_sweep {victim : Option Nat} (h : sweep fuel i slots = (victim, slots')) :
    slots'.length = slots.length := by
  have hentries := congrArg List.length (map_entry_sweep fuel i slots)
  simpa [h] using hentries

/-- The slot that the hand finds is one of the slots. -/
theorem lt_of_sweep (h : sweep fuel i slots = (some j, slots')) : j < slots.length := by
  induction fuel generalizing i slots with
  | zero => cases h
  | succ fuel ih =>
    cases hi : slots[i]? with
    | none =>
      simp only [sweep, hi] at h
      cases h
    | some s =>
      simp only [sweep, hi] at h
      split at h
      · simpa using ih h
      · cases h
        exact (List.getElem?_eq_some_iff.1 hi).1

/-- **The hand takes a mark from every slot** that it passes. -/
theorem countP_marked_sweep (hi : i < slots.length) (h : sweep fuel i slots = (none, slots')) :
    slots'.countP Slot.marked + fuel = slots.countP Slot.marked := by
  induction fuel generalizing i slots with
  | zero =>
    cases h
    rfl
  | succ fuel ih =>
    have hs : slots[i]? = some slots[i] := List.getElem?_eq_getElem hi
    simp only [sweep, hs] at h
    split at h
    · next hmarked =>
      have hpos : 0 < slots.countP Slot.marked :=
        List.countP_pos_iff.2 ⟨_, List.getElem_mem hi, hmarked⟩
      have hrest := ih (by rw [List.length_set]; split <;> omega) h
      rw [List.countP_set hi, if_pos hmarked, if_neg Bool.false_ne_true] at hrest
      omega
    · cases h

/-- Where there are no marks, the hand stays where it is. -/
theorem sweep_of_unmarked (hi : i < slots.length) (hmarks : slots.countP Slot.marked = 0)
    (fuel : Nat) : sweep (fuel + 1) i slots = (some i, slots) := by
  have hs : slots[i]? = some slots[i] := List.getElem?_eq_getElem hi
  have hmark : ¬ slots[i].marked = true := List.countP_eq_zero.1 hmarks _ (List.getElem_mem hi)
  simp only [sweep, hs, if_neg hmark]

/-! ### The free slot -/

/-- Of all entries, the one of the freed slot is gone. -/
theorem perm_removeAt (hi : i < c.slots.length) :
    c.slots[i] :: (c.removeAt i).slots ~ c.slots := by
  obtain ⟨front, last, hslots⟩ : ∃ front last, c.slots = front ++ [last] :=
    (List.eq_nil_or_concat' c.slots).resolve_left fun hnil => by simp [hnil] at hi
  have hlength : c.slots.length = front.length + 1 := by rw [hslots, List.length_append]; rfl
  by_cases hend : i = front.length
  · have hremoved : (c.removeAt i).slots = front := by
      simp [removeAt, hend, hslots]
    have hlast : c.slots[i] = last := by simp [hslots, hend]
    rw [hremoved, hlast, hslots]
    exact (List.perm_append_singleton last front).symm
  · have hfront : i < front.length := by omega
    have hremoved : (c.removeAt i).slots = front.set i last := by
      simp [removeAt, hslots, hend, List.set_append_left i last hfront]
    have hfreed : c.slots[i] = front[i] := by simp [hslots, hfront]
    rw [hremoved, hfreed, hslots]
    calc front[i] :: front.set i last
        ~ front[i] :: last :: front.eraseIdx i := (List.set_perm_cons_eraseIdx hfront last).cons _
      _ ~ last :: front[i] :: front.eraseIdx i := .swap ..
      _ ~ last :: front := (List.getElem_cons_eraseIdx_perm hfront).cons _
      _ ~ front ++ [last] := (List.perm_append_singleton last front).symm

/-- The hand is left at the freed slot if an entry has moved into it, and goes on from the first
slot otherwise. -/
theorem hand_removeAt (hi : i < c.slots.length) :
    (c.removeAt i).hand
      = if i + 1 = c.slots.length then if i = 0 then none else some 0 else some i := by
  unfold removeAt
  split
  · rfl
  · cases hlast : c.slots.getLast? with
    | none =>
      rw [List.getLast?_eq_none_iff] at hlast
      simp [hlast] at hi
    | some last => rfl

/-- Whether the hand, if it was left anywhere, is at a slot. -/
def HandInside (c : BoundedCache κ ν) : Prop := ∀ i ∈ c.hand, i < c.slots.length

theorem HandInside.getD_lt (h : c.HandInside) (hne : c.slots ≠ []) :
    c.hand.getD 0 < c.slots.length := by
  cases hhand : c.hand with
  | none => exact List.length_pos_iff.2 hne
  | some i => exact h i hhand

theorem handInside_removeAt (hi : i < c.slots.length) : (c.removeAt i).HandInside := by
  intro j hj
  have hlength := (perm_removeAt hi).length_eq
  rw [List.length_cons] at hlength
  rw [hand_removeAt hi] at hj
  split at hj
  · split at hj
    · cases hj
    · rw [Option.mem_some_iff] at hj
      omega
  · rw [Option.mem_some_iff] at hj
    omega

/-! ### One entry makes room -/

/-- To free a slot changes nothing but the entries and the hand. -/
theorem exists_evictOnce_eq (c : BoundedCache κ ν) :
    ∃ slots hand, c.evictOnce = { c with slots, hand } := by
  unfold evictOnce
  rcases sweep c.slots.length (c.hand.getD 0) c.slots with ⟨_ | i, slots⟩
  · exact ⟨_, _, rfl⟩
  · dsimp only
    unfold removeAt
    split
    · exact ⟨_, _, rfl⟩
    · cases slots.getLast? <;> exact ⟨_, _, rfl⟩

theorem exists_evict_eq (c : BoundedCache κ ν) :
    ∃ slots hand, c.evict = { c with slots, hand } := by
  obtain ⟨slots, hand, honce⟩ := c.exists_evictOnce_eq
  simp only [evict]
  split
  · exact ⟨_, _, honce⟩
  · obtain ⟨slots', hand', htwice⟩ := c.evictOnce.exists_evictOnce_eq
    exact ⟨slots', hand', by rw [htwice, honce]⟩

theorem capacity_evict (c : BoundedCache κ ν) : c.evict.capacity = c.capacity := by
  obtain ⟨slots, hand, h⟩ := c.exists_evict_eq
  rw [h]

/-- **One round of the hand** frees a slot, or it leaves no marks. -/
theorem evictOnce_cases (c : BoundedCache κ ν) :
    (∃ e, e :: c.evictOnce.entries ~ c.entries ∧ c.evictOnce.HandInside) ∨
    (c.evictOnce.entries = c.entries ∧ c.evictOnce.hand = c.hand ∧
      (c.HandInside → c.slots ≠ [] → c.evictOnce.slots.countP Slot.marked = 0)) := by
  have hentries := map_entry_sweep c.slots.length (c.hand.getD 0) c.slots
  rcases hsweep : sweep c.slots.length (c.hand.getD 0) c.slots with ⟨_ | i, slots⟩
  · rw [hsweep] at hentries
    refine .inr ?_
    simp only [evictOnce, hsweep]
    refine ⟨hentries, trivial, fun h hne => ?_⟩
    have hmarks := countP_marked_sweep (h.getD_lt hne) hsweep
    have hle : c.slots.countP Slot.marked ≤ c.slots.length := List.countP_le_length
    omega
  · have hi : i < slots.length := by
      rw [length_of_sweep hsweep]
      exact lt_of_sweep hsweep
    rw [hsweep] at hentries
    have hperm := (perm_removeAt (c := { c with slots }) hi).map Slot.entry
    refine .inl ⟨slots[i].entry, ?_⟩
    simp only [evictOnce, hsweep]
    exact ⟨hperm.trans (.of_eq hentries), handInside_removeAt hi⟩

theorem entries_evictOnce_subset (c : BoundedCache κ ν) : c.evictOnce.entries ⊆ c.entries := by
  obtain ⟨e, hperm, -⟩ | ⟨hentries, -⟩ := c.evictOnce_cases
  · exact fun e' he' => hperm.subset (List.mem_cons_of_mem e he')
  · exact hentries ▸ List.Subset.refl _

/-- What is kept when there is room again was kept before. -/
theorem entries_evict_subset (c : BoundedCache κ ν) : c.evict.entries ⊆ c.entries := by
  simp only [evict]
  split
  · exact c.entries_evictOnce_subset
  · exact List.Subset.trans c.evictOnce.entries_evictOnce_subset c.entries_evictOnce_subset

/-- Without marks, one round is enough. -/
theorem exists_perm_evictOnce (h : c.HandInside) (hne : c.slots ≠ [])
    (hmarks : c.slots.countP Slot.marked = 0) :
    ∃ e, e :: c.evictOnce.entries ~ c.entries ∧ c.evictOnce.HandInside := by
  have hhand := h.getD_lt hne
  obtain ⟨fuel, hfuel⟩ := Nat.exists_eq_succ_of_ne_zero (Nat.ne_of_gt (List.length_pos_iff.2 hne))
  have hfound : c.evictOnce = c.removeAt (c.hand.getD 0) := by
    rw [evictOnce, hfuel, sweep_of_unmarked hhand hmarks]
  rw [hfound]
  exact ⟨_, (perm_removeAt hhand).map Slot.entry, handInside_removeAt hhand⟩

/-- **One entry makes room**, also when all entries are marked. -/
theorem exists_perm_evict (h : c.HandInside) (hne : c.slots ≠ []) :
    ∃ e, e :: c.evict.entries ~ c.entries ∧ c.evict.HandInside := by
  obtain ⟨e, hperm, hhand⟩ | ⟨hentries, hhand, hmarks⟩ := c.evictOnce_cases
  · have hless : c.evictOnce.slots.length < c.slots.length := by
      rw [← length_entries, ← length_entries, ← hperm.length_eq]
      exact Nat.lt_succ_self _
    rw [evict, if_pos hless]
    exact ⟨e, hperm, hhand⟩
  · have hsame : c.evictOnce.slots.length = c.slots.length := by
      rw [← length_entries, ← length_entries, hentries]
    have hinside : c.evictOnce.HandInside := fun i hi => by
      rw [hsame]
      exact h i (hhand ▸ hi)
    have hleft : c.evictOnce.slots ≠ [] := by
      rwa [← List.length_pos_iff, hsame, List.length_pos_iff]
    rw [evict, if_neg (by omega), ← hentries]
    exact exists_perm_evictOnce hinside hleft (hmarks h hne)

end BoundedCache

end Clearance
