import Clearance.AttributeSet

/-!
# What an attribute set holds

The values held for an attribute after a change to a set: a value that was added is held, others are
as before. So the set of a list of pairs holds the values of the pairs, and a merged set holds the
values of both sets.

## Main results

* `Clearance.AttributeSet.mem_get_add`, `Clearance.AttributeSet.mem_get_clear`,
  `Clearance.AttributeSet.mem_get_ofPairs`, `Clearance.AttributeSet.mem_get_merge`
-/

namespace Clearance.AttributeSet

variable {s t : AttributeSet} {a b : Attribute} {v w : Value} {ps : List (Attribute × Value)}

theorem get_empty : empty.get a = [] := Std.ExtTreeMap.getD_empty

theorem get_add : (s.add b v).get a =
    if a = b then if v ∈ s.get b then s.get b else s.get b ++ [v] else s.get a := by
  rw [get, add, Std.ExtTreeMap.getD_insert]
  simp only [Std.LawfulEqCmp.compare_eq_iff_eq, eq_comm (a := b), has, List.contains_eq_mem,
    decide_eq_true_eq]
  rfl

theorem mem_get_add : w ∈ (s.add b v).get a ↔ w ∈ s.get a ∨ (a, w) = (b, v) := by
  rw [get_add]
  split
  · next hab =>
    subst hab
    split
    · next hv => grind
    · simp
  · next hab => simp [hab]

theorem mem_get_addAll : w ∈ (s.addAll ps).get a ↔ w ∈ s.get a ∨ (a, w) ∈ ps := by
  induction ps generalizing s with
  | nil => simp [addAll]
  | cons p ps ih =>
    have hcons : s.addAll (p :: ps) = (s.add p.1 p.2).addAll ps := rfl
    rw [hcons, ih, mem_get_add, List.mem_cons, or_assoc]

theorem mem_get_ofPairs : w ∈ (ofPairs ps).get a ↔ (a, w) ∈ ps := by
  rw [ofPairs, mem_get_addAll, get_empty]
  simp

theorem mem_get_clear : w ∈ (s.clear b).get a ↔ a ≠ b ∧ w ∈ s.get a := by
  rw [get, clear, Std.ExtTreeMap.getD_erase]
  by_cases hab : b = a <;> simp [hab, get, eq_comm (a := a)]

theorem mem_pairs : (a, w) ∈ s.pairs ↔ w ∈ s.get a := by
  have hheld : w ∈ s.get a ↔ ∃ ws, s.held[a]? = some ws ∧ w ∈ ws := by
    rw [get, Std.ExtTreeMap.getD_eq_getD_getElem?]
    cases s.held[a]? <;> simp
  have hpairs : (a, w) ∈ s.pairs ↔ ∃ b ws, s.held[b]? = some ws ∧ w ∈ ws ∧ b = a := by
    simp [pairs, entries]
  rw [hheld, hpairs]
  constructor
  · rintro ⟨_, ws, hws, hw, rfl⟩
    exact ⟨ws, hws, hw⟩
  · rintro ⟨ws, hws, hw⟩
    exact ⟨a, ws, hws, hw, rfl⟩

theorem mem_get_merge : w ∈ (s.merge t).get a ↔ w ∈ s.get a ∨ w ∈ t.get a := by
  rw [merge, mem_get_addAll, mem_pairs]

end Clearance.AttributeSet
