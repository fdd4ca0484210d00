import Clearance.Proofs.Label.Validation
import Clearance.Proofs.Pattern
import Clearance.Proofs.SharedStore.Outcome

/-!
# The changes that transactions have collected

A transaction collects only changes that the store has checked. So a property of all additions that
pass the check, and of all removals, is a property of all changes that transactions have collected,
whatever was asked of the store.

## Main definitions

* `Clearance.SharedStore.Collected` — stores on which transactions have collected certain changes
  only.

## Main results

* `Clearance.SharedStore.Collected.outcome` — every request keeps this.
* `Clearance.Store.exists_shape_of_checkEntry`, `Clearance.Store.valid_of_checkEntry` — additions
  that pass the check have a shape, and labels that can be read.
-/

namespace Clearance

namespace Store

variable {S : Store} {pattern : Triple} {labels : List Label}

theorem exists_shape_of_checkEntry (h : S.checkEntry pattern labels = .ok ()) :
    ∃ shape, Shape.ofPattern? pattern = some shape := by
  rcases hshape : Shape.ofPattern? pattern with _ | shape
  · have hpattern : Shape.ofPattern pattern = .error (.invalid (.patternShape pattern)) := by
      rw [Shape.ofPattern, hshape]
    cases S with
    | empty => cases h
    | memory m =>
      simp only [checkEntry, hpattern] at h
      cases h
    | persistent s =>
      simp only [checkEntry, hpattern] at h
      cases h
  · exact ⟨shape, rfl⟩

/-- The labels of additions that pass the check can be read. -/
theorem valid_of_checkEntry (h : S.checkEntry pattern labels = .ok ()) : Label.Valid labels := by
  cases S with
  | empty => cases h
  | _ =>
    obtain ⟨shape, hshape⟩ := exists_shape_of_checkEntry h
    simp only [checkEntry, Shape.ofPattern, hshape] at h
    exact Label.validate_eq_ok_iff.1 h

end Store

namespace SharedStore

variable {P : Change → Prop} {σ σ' : SharedStore} {x : String} {t : Txn} {c : Change} {op : Op}

/-- Whether all changes that transactions have collected have a property. -/
def Collected (P : Change → Prop) (σ : SharedStore) : Prop :=
  ∀ (x : String) (t : Txn), σ.txns[x]? = some t → ∀ c ∈ t.pending, P c

theorem collected_of_no_txns (h : σ.txns = ∅) : Collected P σ := by
  intro x t ht
  rw [h, Std.ExtTreeMap.getElem?_empty] at ht
  cases ht

namespace Collected

variable (h : Collected P σ)

include h

/-- Nothing but the transactions counts. -/
theorem congr (htxns : σ'.txns = σ.txns) : Collected P σ' := by
  intro x t ht
  rw [htxns] at ht
  exact h x t ht

/-! ### The parts -/

theorem ended (x : String) (t : Txn) : Collected P (σ.ended x t) := by
  intro y u hu
  rw [getElem?_ended] at hu
  split at hu
  · cases hu
  · exact h y u hu

/-- A transaction that begins has collected nothing. -/
theorem entered (x : String) (hpending : t.pending = []) : Collected P (σ.entered x t) := by
  intro y u hu
  rw [getElem?_entered] at hu
  split at hu
  · cases hu
    rw [hpending]
    exact List.forall_mem_nil P
  · exact h y u hu

theorem promotion {r : Except Error Bool} (hpromotion : Promotion x σ r σ') : Collected P σ' := by
  cases hpromotion with
  | @turns t ht hmode htype hfree =>
    intro y u hu
    rw [getElem?_promoted] at hu
    split at hu
    · cases hu
      exact h x t ht
    · exact h y u hu
  | _ => exact h

theorem collected (ht : σ.txns[x]? = some t) (hc : P c) : Collected P (σ.collected x t c) := by
  intro y u hu
  rw [getElem?_collected] at hu
  split at hu
  · cases hu
    exact List.forall_mem_append.2 ⟨h x t ht, List.forall_mem_singleton.2 hc⟩
  · exact h y u hu

theorem collection {r : Except Error Unit} (hcollection : Collection x c σ r σ')
    (hc : σ.store.Accepts c → P c) : Collected P σ' := by
  cases hcollection with
  | notWriter => exact h
  | refused hpromotion => exact (h.promotion hpromotion).congr rfl
  | accepted hpromotion ht hmode haccepts =>
    exact (h.promotion hpromotion).collected ht (hc haccepts)

/-! ### Requests -/

/-- **Transactions collect only what the store takes**, whatever becomes of a request. -/
theorem outcome {r : Except Error Answer} (houtcome : Outcome σ op r σ')
    (hop : ∀ x c, op.Collects x c → σ.store.Accepts c → P c) : Collected P σ' := by
  cases houtcome with
  | reads x hwrite hoffered => exact h.entered x rfl
  | writes x hfree =>
    have hslot : Collected P { σ with writerActive := true } := h
    exact hslot.entered x rfl
  | promotes hpromotion => exact h.promotion hpromotion
  | collects hcollects hcollection => exact h.collection hcollection (hop _ _ hcollects)
  | @ends x op t events hfinishes ht hcommit => exact (h.ended x t).congr rfl
  | @commits x t ht hmode => exact (h.ended x t).congr (txns_commitChanges _ _)
  | applies halone hfree haccepts => exact h.congr (txns_commitChanges _ _)
  | reopens hs hattach => exact collected_of_no_txns rfl
  | _ => exact h

end Collected

end SharedStore

end Clearance
