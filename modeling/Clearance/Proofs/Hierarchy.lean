import Clearance.Hierarchy

/-!
# Comparing by a hierarchy

Values compare by their places, so one value reaches another exactly if both have a place and that
of the second is not lower. The comparison is therefore transitive.

## Main results

* `Clearance.Hierarchy.reaches_iff`, `Clearance.Hierarchy.reaches_trans`
-/

namespace Clearance.Hierarchy

variable {h : Hierarchy} {u v w : Value}

theorem reaches_iff_compare? :
    h.reaches v w = true ↔ h.compare? v w = some .lt ∨ h.compare? v w = some .eq := by
  unfold reaches
  rcases h.compare? v w with _ | _ | _ | _ <;> simp

theorem reaches_iff : h.reaches v w = true ↔
    ∃ i j, h.values.idxOf? v = some i ∧ h.values.idxOf? w = some j ∧ i ≤ j := by
  rw [reaches_iff_compare?, compare?]
  cases h.values.idxOf? v <;> cases h.values.idxOf? w <;>
    simp [Nat.compare_eq_lt, Nat.le_iff_lt_or_eq]

/-- **What a value reaches is reached by all values below it.** -/
theorem reaches_trans (huv : h.reaches u v = true) (hvw : h.reaches v w = true) :
    h.reaches u w = true := by
  obtain ⟨i, j, hi, hj, hij⟩ := reaches_iff.1 huv
  obtain ⟨j', k, hj', hk, hjk⟩ := reaches_iff.1 hvw
  obtain rfl : j = j' := Option.some.inj (hj.symm.trans hj')
  exact reaches_iff.2 ⟨i, k, hi, hk, Nat.le_trans hij hjk⟩

end Clearance.Hierarchy
