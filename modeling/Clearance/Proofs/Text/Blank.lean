import Clearance.Text.Blank

/-!
# Dropping the ends of a list

The longest run at one end of a list is dropped whose members satisfy a predicate. Of a list whose
outermost member does not satisfy it, nothing is dropped; and after the back is dropped, the front
of the list is left, up to a member that does not satisfy it.

## Main results

* `Clearance.Text.dropWhileEnd_prefix`, `Clearance.Text.getLast?_dropWhileEnd` — what is left.
* `Clearance.Text.exists_eq_dropWhileEnd_append`, `Clearance.Text.dropWhileEnd_append_of_pos` — what
  is dropped.
* `Clearance.Text.dropWhileEnd_of_getLast?` — lists that are left as they are.
-/

namespace Clearance.Text

variable {α : Type} {p : α → Bool} {a : α} {l : List α}

/-! ### The front -/

theorem takeWhile_of_head? (h : ∀ a ∈ l.head?, p a = false) : l.takeWhile p = [] := by
  cases l with
  | nil => rfl
  | cons a l => exact List.takeWhile_cons_of_neg (by simp [h a rfl])

theorem dropWhile_of_head? (h : ∀ a ∈ l.head?, p a = false) : l.dropWhile p = l := by
  cases l with
  | nil => rfl
  | cons a l => exact List.dropWhile_cons_of_neg (by simp [h a rfl])

/-! ### The back -/

theorem dropWhileEnd_cons_of_neg (ha : p a = false) :
    dropWhileEnd p (a :: l) = a :: dropWhileEnd p l := by
  rw [dropWhileEnd]
  cases dropWhileEnd p l with
  | nil => simp [ha]
  | cons b t => rfl

/-- What is dropped at the end are members that satisfy `p`. -/
theorem exists_eq_dropWhileEnd_append :
    ∀ l : List α, ∃ dropped, l = dropWhileEnd p l ++ dropped ∧ ∀ a ∈ dropped, p a = true
  | [] => ⟨[], rfl, nofun⟩
  | a :: l => by
    obtain ⟨dropped, hl, hdropped⟩ := exists_eq_dropWhileEnd_append l
    rw [dropWhileEnd]
    cases hrest : dropWhileEnd p l with
    | nil =>
      rw [hrest, List.nil_append] at hl
      dsimp only
      split
      · next ha => exact ⟨a :: l, rfl, List.forall_mem_cons.2 ⟨ha, hl ▸ hdropped⟩⟩
      · exact ⟨l, rfl, hl ▸ hdropped⟩
    | cons b t =>
      rw [hrest] at hl
      exact ⟨dropped, congrArg (a :: ·) hl, hdropped⟩

theorem dropWhileEnd_prefix (l : List α) : dropWhileEnd p l <+: l := by
  obtain ⟨dropped, hl, -⟩ := exists_eq_dropWhileEnd_append (p := p) l
  exact ⟨dropped, hl.symm⟩

theorem dropWhileEnd_eq_nil (h : ∀ a ∈ l, p a = true) : dropWhileEnd p l = [] := by
  induction l with
  | nil => rfl
  | cons a l ih =>
    rw [dropWhileEnd, ih fun b hb => h b (List.mem_cons_of_mem _ hb)]
    exact if_pos (h a List.mem_cons_self)

/-- Members that satisfy `p` may stand at the end or not. -/
theorem dropWhileEnd_append_of_pos {dropped : List α} (h : ∀ a ∈ dropped, p a = true) :
    ∀ l, dropWhileEnd p (l ++ dropped) = dropWhileEnd p l
  | [] => dropWhileEnd_eq_nil h
  | a :: l => by
    rw [List.cons_append, dropWhileEnd, dropWhileEnd_append_of_pos h l]
    rfl

/-- Of a list whose last member stays, nothing is dropped. -/
theorem dropWhileEnd_of_getLast? : ∀ {l : List α}, (∀ a ∈ l.getLast?, p a = false) →
    dropWhileEnd p l = l
  | [], _ => rfl
  | [a], h => dropWhileEnd_cons_of_neg (h a rfl)
  | a :: b :: l, h => by
    rw [dropWhileEnd, dropWhileEnd_of_getLast? (l := b :: l) (by simpa using h)]

/-- The last member of what is left is one that stays. -/
theorem getLast?_dropWhileEnd : ∀ l : List α, ∀ a ∈ (dropWhileEnd p l).getLast?, p a = false
  | [] => nofun
  | a :: l => by
    have ih := getLast?_dropWhileEnd l
    rw [dropWhileEnd]
    cases hrest : dropWhileEnd p l with
    | nil =>
      dsimp only
      split
      · nofun
      · next ha => simpa using ha
    | cons b t =>
      rw [hrest] at ih
      simpa using ih

/-- What is dropped at an end is dropped at once. -/
theorem dropWhileEnd_dropWhileEnd (p : α → Bool) (l : List α) :
    dropWhileEnd p (dropWhileEnd p l) = dropWhileEnd p l :=
  dropWhileEnd_of_getLast? (getLast?_dropWhileEnd l)

end Clearance.Text
