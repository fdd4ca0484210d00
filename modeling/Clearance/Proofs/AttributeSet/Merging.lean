import Mathlib.Data.List.Induction
import Clearance.Proofs.AttributeSet

/-!
# Merging attribute sets

A set lists its attributes with the values held for them. In a set that was made by adding values,
every listed attribute has a value and none has a value twice, so that such a set is determined by
the values that can be asked for. Merging keeps the values of the first set in their order, and puts
behind them those values of the second set that the first one does not have, in their order. So it
does not matter how merged sets are grouped, and merging with a set again changes nothing.

## Main definitions

* `Clearance.AttributeSet.WellFormed` — sets in which no attribute is without values, or has one
  twice.

## Main results

* `Clearance.AttributeSet.WellFormed.add`, `Clearance.AttributeSet.WellFormed.merge`,
  `Clearance.AttributeSet.WellFormed.clear`, `Clearance.AttributeSet.wellFormed_ofPairs`
* `Clearance.AttributeSet.WellFormed.get_merge` — the values of a merged set, in their order.
* `Clearance.AttributeSet.WellFormed.merge_assoc`,
  `Clearance.AttributeSet.WellFormed.merge_merge_self`
* `Clearance.AttributeSet.ofPairs_append` — a list of pairs in two parts.
-/

namespace Clearance.AttributeSet

variable {s t u : AttributeSet} {a b : Attribute} {v : Value} {vs : List Value}
  {ps qs : List (Attribute × Value)}

/-! ### Well-formed sets -/

/-- A set in which every attribute has values, and none of them twice. -/
def WellFormed (s : AttributeSet) : Prop := ∀ p ∈ s.entries, p.2 ≠ [] ∧ p.2.Nodup

theorem mem_entries : (a, vs) ∈ s.entries ↔ s.held[a]? = some vs :=
  Std.ExtTreeMap.mem_toList_iff_getElem?_eq_some

theorem get_eq_getD : s.get a = s.held[a]?.getD [] := Std.ExtTreeMap.getD_eq_getD_getElem?

theorem get_eq_of_mem_entries (h : (a, vs) ∈ s.entries) : s.get a = vs := by
  rw [get_eq_getD, mem_entries.1 h]
  rfl

/-- An attribute is listed with its values, or has none. -/
theorem mem_entries_or_get_eq_nil :
    (a, s.get a) ∈ s.entries ∨ s.held[a]? = none ∧ s.get a = [] := by
  rw [mem_entries, get_eq_getD]
  cases s.held[a]? <;> simp

theorem WellFormed.nodup_get (h : s.WellFormed) (a : Attribute) : (s.get a).Nodup := by
  rcases mem_entries_or_get_eq_nil with hmem | ⟨-, hnil⟩
  · exact (h _ hmem).2
  · rw [hnil]
    exact .nil

theorem WellFormed.getElem?_held (h : s.WellFormed) (a : Attribute) :
    s.held[a]? = if s.get a = [] then none else some (s.get a) := by
  rcases mem_entries_or_get_eq_nil (s := s) (a := a) with hmem | ⟨hnone, hnil⟩
  · rw [if_neg (h _ hmem).1, mem_entries.1 hmem]
  · rw [if_pos hnil, hnone]

/-- **A well-formed set is determined by the values held for each attribute.** -/
theorem WellFormed.eq_of_get (hs : s.WellFormed) (ht : t.WellFormed) (h : ∀ a, s.get a = t.get a) :
    s = t := by
  have hheld : s.held = t.held := Std.ExtTreeMap.ext_getElem? fun a => by
    rw [hs.getElem?_held, ht.getElem?_held, h a]
  cases s
  cases t
  exact congrArg AttributeSet.mk hheld

theorem wellFormed_empty : empty.WellFormed := by
  rintro ⟨a, vs⟩ h
  rw [mem_entries] at h
  simp [empty] at h

theorem WellFormed.add (h : s.WellFormed) (b : Attribute) (v : Value) : (s.add b v).WellFormed := by
  rintro ⟨a, vs⟩ hmem
  rw [mem_entries, AttributeSet.add, Std.ExtTreeMap.getElem?_insert] at hmem
  split at hmem
  · obtain rfl := Option.some.inj hmem
    split
    · next hhas =>
      have hv : v ∈ s.get b := List.contains_iff_mem.1 hhas
      exact ⟨List.ne_nil_of_mem hv, h.nodup_get b⟩
    · next hhas =>
      have hv : v ∉ s.get b := mt List.contains_iff_mem.2 hhas
      exact ⟨by simp, by simpa [List.nodup_append, h.nodup_get b] using fun w hw =>
        ne_of_mem_of_not_mem hw hv⟩
  · exact h _ (mem_entries.2 hmem)

theorem WellFormed.addAll (h : s.WellFormed) (ps : List (Attribute × Value)) :
    (s.addAll ps).WellFormed := by
  induction ps generalizing s with
  | nil => exact h
  | cons p ps ih => exact ih (h.add p.1 p.2)

theorem wellFormed_ofPairs (ps : List (Attribute × Value)) : (ofPairs ps).WellFormed :=
  wellFormed_empty.addAll ps

theorem WellFormed.merge (h : s.WellFormed) (t : AttributeSet) : (s.merge t).WellFormed :=
  h.addAll t.pairs

theorem WellFormed.clear (h : s.WellFormed) (b : Attribute) : (s.clear b).WellFormed := by
  rintro ⟨a, vs⟩ hmem
  rw [mem_entries, AttributeSet.clear, Std.ExtTreeMap.getElem?_erase] at hmem
  split at hmem
  · cases hmem
  · exact h _ (mem_entries.2 hmem)

/-! ### Lists of pairs -/

theorem addAll_append : s.addAll (ps ++ qs) = (s.addAll ps).addAll qs := List.foldl_append

theorem get_addAll_concat {p : Attribute × Value} : (s.addAll (ps ++ [p])).get a =
    if a = p.1 then
      if p.2 ∈ (s.addAll ps).get p.1 then (s.addAll ps).get p.1 else (s.addAll ps).get p.1 ++ [p.2]
    else (s.addAll ps).get a := by
  rw [addAll_append]
  exact get_add

/-- **Behind the values of a set come those of a list of pairs that are not there yet.** -/
theorem get_addAll : (s.addAll ps).get a =
    s.get a ++ ((ofPairs ps).get a).filter fun v => v ∉ s.get a := by
  induction ps using List.reverseRecOn with
  | nil => simp [addAll, ofPairs, get_empty]
  | append_singleton ps p ih =>
    rw [ofPairs, get_addAll_concat, get_addAll_concat, ← ofPairs]
    split
    · next ha =>
      subst ha
      rw [ih]
      by_cases hs : p.2 ∈ s.get p.1 <;> by_cases hp : p.2 ∈ (ofPairs ps).get p.1 <;> simp [hs, hp]
    · exact ih

/-- The values of an attribute in a list of pairs. -/
def valuesOf (a : Attribute) (ps : List (Attribute × Value)) : List Value :=
  ps.filterMap fun p => if p.1 = a then some p.2 else none

theorem valuesOf_concat {p : Attribute × Value} :
    valuesOf a (ps ++ [p]) = valuesOf a ps ++ if a = p.1 then [p.2] else [] := by
  rw [valuesOf, List.filterMap_append, ← valuesOf]
  split <;> simp_all [eq_comm (a := a)]

/-- What a list of pairs names once only is held as it is listed. -/
theorem get_ofPairs_of_nodup (h : (valuesOf a ps).Nodup) : (ofPairs ps).get a = valuesOf a ps := by
  induction ps using List.reverseRecOn with
  | nil => exact get_empty
  | append_singleton ps p ih =>
    rw [valuesOf_concat, List.nodup_append] at h
    rw [ofPairs, get_addAll_concat, ← ofPairs, valuesOf_concat]
    split
    · next ha =>
      subst ha
      obtain ⟨hps, -, hdisjoint⟩ := h
      have hnew : p.2 ∉ valuesOf p.1 ps := fun hmem => hdisjoint p.2 hmem p.2 (by simp) rfl
      rw [ih hps, if_neg hnew]
    · rw [List.append_nil]
      exact ih h.1

theorem valuesOf_entry : valuesOf a (vs.map fun v => (b, v)) = if a = b then vs else [] := by
  rw [valuesOf, List.filterMap_map]
  show vs.filterMap (fun v => if b = a then some v else none) = _
  split
  · next hab => simp [hab]
  · next hab => simp [Ne.symm hab]

theorem valuesOf_entries_cons {p : Attribute × List Value} {es : List (Attribute × List Value)} :
    valuesOf a ((p :: es).flatMap fun p => p.2.map fun v => (p.1, v)) =
      (if a = p.1 then p.2 else []) ++
        valuesOf a (es.flatMap fun p => p.2.map fun v => (p.1, v)) := by
  rw [List.flatMap_cons, valuesOf, List.filterMap_append, ← valuesOf, ← valuesOf, valuesOf_entry]

theorem valuesOf_entries_of_ne {es : List (Attribute × List Value)} (h : ∀ p ∈ es, a ≠ p.1) :
    valuesOf a (es.flatMap fun p => p.2.map fun v => (p.1, v)) = [] := by
  induction es with
  | nil => rfl
  | cons p es ih =>
    obtain ⟨hp, hes⟩ := List.forall_mem_cons.1 h
    rw [valuesOf_entries_cons, if_neg hp, ih hes, List.append_nil]

/-- Of entries for different attributes, one has the values of an attribute. -/
theorem valuesOf_entries {es : List (Attribute × List Value)} (h : es.Pairwise fun p q => p.1 ≠ q.1)
    (hmem : (a, vs) ∈ es) : valuesOf a (es.flatMap fun p => p.2.map fun v => (p.1, v)) = vs := by
  induction es with
  | nil => cases hmem
  | cons p es ih =>
    obtain ⟨hp, hes⟩ := List.pairwise_cons.1 h
    rw [valuesOf_entries_cons]
    rcases List.mem_cons.1 hmem with rfl | hmem
    · rw [if_pos rfl, valuesOf_entries_of_ne hp, List.append_nil]
    · rw [if_neg (hp _ hmem).symm, ih hes hmem, List.nil_append]

/-- The pairs of a set name the values of each attribute in their order. -/
theorem valuesOf_pairs : valuesOf a s.pairs = s.get a := by
  have hdistinct : s.entries.Pairwise fun p q => p.1 ≠ q.1 :=
    Std.ExtTreeMap.distinct_keys_toList.imp fun hne heq =>
      hne (Std.LawfulEqCmp.compare_eq_iff_eq.2 heq)
  rcases mem_entries_or_get_eq_nil (s := s) (a := a) with hmem | ⟨hnone, hnil⟩
  · exact valuesOf_entries hdistinct hmem
  · rw [hnil]
    refine valuesOf_entries_of_ne fun p hp ha => ?_
    rw [ha, mem_entries.1 hp] at hnone
    cases hnone

theorem WellFormed.ofPairs_pairs (h : s.WellFormed) : ofPairs s.pairs = s := by
  refine (wellFormed_ofPairs _).eq_of_get h fun a => ?_
  have hnodup : (valuesOf a s.pairs).Nodup := valuesOf_pairs ▸ h.nodup_get a
  rw [get_ofPairs_of_nodup hnodup, valuesOf_pairs]

/-! ### Merging -/

/-- **The values of a merged set:** those of the first set, and then those of the second that the
first one does not have. -/
theorem WellFormed.get_merge (ht : t.WellFormed) (s : AttributeSet) (a : Attribute) :
    (s.merge t).get a = s.get a ++ (t.get a).filter fun v => v ∉ s.get a := by
  rw [AttributeSet.merge, get_addAll, ht.ofPairs_pairs]

/-- **Merging is associative**, with the order of the values. -/
theorem WellFormed.merge_assoc (hs : s.WellFormed) (ht : t.WellFormed) (hu : u.WellFormed) :
    (s.merge t).merge u = s.merge (t.merge u) := by
  refine ((hs.merge t).merge u).eq_of_get (hs.merge _) fun a => ?_
  have hnew : (u.get a).filter (fun v => v ∉ s.get a ++ (t.get a).filter fun v => v ∉ s.get a) =
      ((u.get a).filter fun v => v ∉ t.get a).filter fun v => v ∉ s.get a := by
    rw [List.filter_filter]
    refine List.filter_congr fun v _ => ?_
    by_cases hv : v ∈ s.get a <;> simp [hv]
  rw [hu.get_merge, ht.get_merge, (ht.merge u).get_merge, hu.get_merge, List.filter_append, hnew,
    List.append_assoc]

/-- Merging with values that are there changes nothing. -/
theorem WellFormed.merge_eq_self (hs : s.WellFormed) (ht : t.WellFormed)
    (h : ∀ a, t.get a ⊆ s.get a) : s.merge t = s := by
  refine (hs.merge t).eq_of_get hs fun a => ?_
  have hnone : (t.get a).filter (fun v => v ∉ s.get a) = [] :=
    List.filter_eq_nil_iff.2 fun v hv => by simpa using h a hv
  rw [ht.get_merge, hnone, List.append_nil]

/-- **What was merged is not merged again.** -/
theorem WellFormed.merge_merge_self (hs : s.WellFormed) (ht : t.WellFormed) :
    (s.merge t).merge t = s.merge t :=
  (hs.merge t).merge_eq_self ht fun _ _ hv => mem_get_merge.2 (.inr hv)

theorem WellFormed.merge_self (hs : s.WellFormed) : s.merge s = s :=
  hs.merge_eq_self hs fun _ => List.Subset.refl _

/-- A list of pairs in two parts gives what the sets of the parts give when they are merged. -/
theorem ofPairs_append : ofPairs (ps ++ qs) = (ofPairs ps).merge (ofPairs qs) := by
  refine (wellFormed_ofPairs _).eq_of_get ((wellFormed_ofPairs ps).merge _) fun a => ?_
  rw [(wellFormed_ofPairs qs).get_merge, ofPairs, addAll_append, get_addAll, ← ofPairs]

end Clearance.AttributeSet
