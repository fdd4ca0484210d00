/-!
# Lists without repetitions

Of the elements of a list that are repeated, only the first ones are kept. What is kept of a list
that gets longer at its end is kept of the longer list, too.

## Main results

* `Clearance.eraseDups_induction` — induction along the elements that are kept.
* `Clearance.nodup_eraseDups`, `Clearance.eraseDups_sublist`, `Clearance.eraseDups_eq_self` — what
  is kept.
* `Clearance.eraseDups_concat`, `Clearance.length_eraseDups_le_of_subset` — longer lists.
-/

namespace Clearance

variable {α : Type} [BEq α] {l : List α} {a : α}

/-- Induction along the elements that are kept: what holds of a list after all repetitions of an
element are left out holds of the list behind this element. -/
@[elab_as_elim]
theorem eraseDups_induction {P : List α → Prop} (nil : P [])
    (cons : ∀ a l, P (l.filter fun b => !b == a) → P (a :: l)) : ∀ l, P l
  | [] => nil
  | a :: l => cons a l (eraseDups_induction nil cons (l.filter fun b => !b == a))
  termination_by l => l.length
  decreasing_by exact Nat.lt_succ_of_le (List.length_filter_le _ _)

theorem eraseDups_sublist (l : List α) : l.eraseDups.Sublist l := by
  induction l using eraseDups_induction with
  | nil => exact .slnil
  | cons a l ih =>
    rw [List.eraseDups_cons]
    exact (ih.trans List.filter_sublist).cons_cons a

variable [LawfulBEq α]

/-- Of repeated elements only the first ones are kept. -/
theorem nodup_eraseDups (l : List α) : l.eraseDups.Nodup := by
  induction l using eraseDups_induction with
  | nil => exact List.Pairwise.nil
  | cons a l ih =>
    rw [List.eraseDups_cons, List.nodup_cons]
    refine ⟨fun hmem => ?_, ih⟩
    rw [List.mem_eraseDups, List.mem_filter] at hmem
    simp at hmem

/-- Of a list without repetitions, nothing is left out. -/
theorem eraseDups_eq_self (h : l.Nodup) : l.eraseDups = l := by
  induction l with
  | nil => rfl
  | cons a l ih =>
    obtain ⟨ha, hl⟩ := List.nodup_cons.1 h
    have hfilter : l.filter (fun b => !b == a) = l := by
      refine List.filter_eq_self.2 fun b hb => ?_
      have hne : b ≠ a := fun heq => ha (heq ▸ hb)
      simpa using hne
    rw [List.eraseDups_cons, hfilter, ih hl]

theorem eraseDups_concat_of_mem (ha : a ∈ l) : (l ++ [a]).eraseDups = l.eraseDups := by
  rw [List.eraseDups_append]
  simp [List.removeAll, ha]

theorem eraseDups_concat_of_not_mem (ha : a ∉ l) : (l ++ [a]).eraseDups = l.eraseDups ++ [a] := by
  rw [List.eraseDups_append]
  simp [List.removeAll, ha, List.eraseDups_cons]

theorem eraseDups_concat (l : List α) (a : α) :
    (l ++ [a]).eraseDups = if l.eraseDups.contains a then l.eraseDups else l.eraseDups ++ [a] := by
  by_cases ha : a ∈ l
  · rw [eraseDups_concat_of_mem ha, if_pos (List.contains_iff_mem.2 (List.mem_eraseDups.2 ha))]
  · rw [eraseDups_concat_of_not_mem ha, if_neg]
    exact fun h => ha (List.mem_eraseDups.1 (List.contains_iff_mem.1 h))

theorem length_eraseDups_le_of_subset {l' : List α} (h : l ⊆ l') :
    l.eraseDups.length ≤ l'.eraseDups.length :=
  (nodup_eraseDups l).length_le_of_subset fun _ ha =>
    List.mem_eraseDups.2 (h (List.mem_eraseDups.1 ha))

end Clearance
