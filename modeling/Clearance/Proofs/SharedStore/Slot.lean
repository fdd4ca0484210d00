import Clearance.Proofs.SharedStore.Outcome

/-!
# The writer slot

At any time at most one transaction is the writer, and the slot is taken exactly while there is one.
A transaction that only reads never becomes the writer and collects no changes, and no transaction
ever has the type that no store offers. Every request keeps this, whatever its answer. A request
makes a transaction the writer only if the slot was free.

## Main definitions

* `Clearance.SharedStore.IsWriter` — the transactions that are the writer.
* `Clearance.SharedStore.Orderly` — stores whose transactions are in order.

## Main results

* `Clearance.SharedStore.Orderly.outcome` — transactions stay in order.
* `Clearance.SharedStore.IsWriter.of_outcome` — the slot was free for a new writer.
-/

namespace Clearance

/-- Whether a transaction is what its type allows: it is of a type that stores offer, it does not
write if it only reads, and it has collected nothing while it is no writer. -/
structure Txn.IsSound (t : Txn) : Prop where
  /-- Stores offer the type. -/
  offered : t.type ≠ .readCommittedPromote
  /-- A transaction that only reads is a reader. -/
  reads : t.type = .read → t.mode = .read
  /-- A reader has no changes. -/
  pending_eq : t.mode = .read → t.pending = []

namespace SharedStore

variable {σ σ' : SharedStore} {x y : String} {t : Txn} {c : Change} {op : Op}
  {r : Except Error Answer}

/-- Whether the transaction with a name is the writer. -/
def IsWriter (σ : SharedStore) (x : String) : Prop := ∃ t, σ.txns[x]? = some t ∧ t.mode = .write

/-- Whether the transactions on a store are in order. -/
structure Orderly (σ : SharedStore) : Prop where
  /-- The slot is taken exactly while there is a writer. -/
  slot : σ.writerActive = true ↔ ∃ x, σ.IsWriter x
  /-- There is one writer at most. -/
  unique {x y : String} (hx : σ.IsWriter x) (hy : σ.IsWriter y) : x = y
  /-- All transactions are what their types allow. -/
  sound {x : String} {t : Txn} (ht : σ.txns[x]? = some t) : t.IsSound

/-- A store without transactions. -/
theorem orderly_of_no_txns (htxns : σ.txns = ∅) (hfree : σ.writerActive = false) : σ.Orderly := by
  have hnone (x : String) : σ.txns[x]? = none := by rw [htxns, Std.ExtTreeMap.getElem?_empty]
  refine ⟨?_, ?_, ?_⟩
  · simp [hfree, IsWriter, hnone]
  · rintro x y ⟨t, ht, -⟩
    simp [hnone] at ht
  · intro x t ht
    simp [hnone] at ht

/-- Nothing but the slot and the transactions counts. -/
theorem Orderly.congr (h : σ.Orderly) (hactive : σ'.writerActive = σ.writerActive)
    (htxns : σ'.txns = σ.txns) : σ'.Orderly := by
  have hwriter (x : String) : σ'.IsWriter x ↔ σ.IsWriter x := by rw [IsWriter, IsWriter, htxns]
  refine ⟨?_, ?_, ?_⟩
  · rw [hactive, h.slot]
    exact exists_congr fun x => (hwriter x).symm
  · exact fun hx hy => h.unique ((hwriter _).1 hx) ((hwriter _).1 hy)
  · intro x t ht
    rw [htxns] at ht
    exact h.sound ht

theorem Orderly.not_isWriter (h : σ.Orderly) (hfree : σ.writerActive = false) (x : String) :
    ¬ σ.IsWriter x := by
  intro hx
  have hactive := h.slot.2 ⟨x, hx⟩
  rw [hfree] at hactive
  cases hactive

/-! ### The writer after a part -/

theorem isWriter_ended : (σ.ended x t).IsWriter y ↔ x ≠ y ∧ σ.IsWriter y := by
  rw [IsWriter, getElem?_ended]
  by_cases hxy : x = y
  · simp [hxy]
  · simp [hxy, IsWriter]

theorem isWriter_vacated : (σ.vacated x).IsWriter y ↔ x ≠ y ∧ σ.IsWriter y := by
  rw [IsWriter, getElem?_vacated]
  by_cases hxy : x = y
  · simp [hxy]
  · simp [hxy, IsWriter]

theorem isWriter_entered :
    (σ.entered x t).IsWriter y ↔ if x = y then t.mode = .write else σ.IsWriter y := by
  rw [IsWriter, getElem?_entered]
  by_cases hxy : x = y
  · simp [hxy]
  · simp [hxy, IsWriter]

theorem isWriter_collected (ht : σ.txns[x]? = some t) :
    (σ.collected x t c).IsWriter y ↔ σ.IsWriter y := by
  rw [IsWriter, getElem?_collected, IsWriter]
  by_cases hxy : x = y
  · subst hxy
    simp [ht]
  · simp [hxy]

/-! ### Order is kept -/

namespace Orderly

variable (h : σ.Orderly)

include h

theorem ended (ht : σ.txns[x]? = some t) : (σ.ended x t).Orderly := by
  refine ⟨?_, ?_, ?_⟩
  · have hactive : (σ.ended x t).writerActive = true ↔ σ.writerActive = true ∧ t.mode ≠ .write := by
      simp [SharedStore.ended]
    rw [hactive, h.slot]
    constructor
    · rintro ⟨⟨y, hy⟩, hmode⟩
      refine ⟨y, isWriter_ended.2 ⟨?_, hy⟩⟩
      rintro rfl
      obtain ⟨u, hu, hwrite⟩ := hy
      rw [ht] at hu
      cases hu
      exact hmode hwrite
    · rintro ⟨y, hy⟩
      obtain ⟨hne, hy⟩ := isWriter_ended.1 hy
      exact ⟨⟨y, hy⟩, fun hmode => hne (h.unique ⟨t, ht, hmode⟩ hy)⟩
  · exact fun hy hz => h.unique (isWriter_ended.1 hy).2 (isWriter_ended.1 hz).2
  · intro y u hu
    rw [getElem?_ended] at hu
    split at hu
    · cases hu
    · exact h.sound hu

theorem vacated (x : String) : (σ.vacated x).Orderly := by
  rw [SharedStore.vacated]
  cases ht : σ.txns[x]? with
  | some t => exact (h.ended ht).congr rfl rfl
  | none => exact h

/-- A reader begins. -/
theorem entered_reader (ht : t.IsSound) (hmode : t.mode = .read) (x : String) :
    (σ.entered x t).Orderly := by
  have hvacated := h.vacated x
  have hwriter (y : String) : (σ.entered x t).IsWriter y ↔ (σ.vacated x).IsWriter y := by
    rw [isWriter_entered, hmode, isWriter_vacated]
    by_cases hxy : x = y
    · simp [hxy]
    · simp [hxy]
  refine ⟨?_, ?_, ?_⟩
  · exact hvacated.slot.trans (exists_congr fun y => (hwriter y).symm)
  · exact fun hy hz => hvacated.unique ((hwriter _).1 hy) ((hwriter _).1 hz)
  · intro y u hu
    rw [getElem?_entered] at hu
    split at hu
    · cases hu
      exact ht
    · exact h.sound hu

/-- A new writer, when the slot was free. -/
theorem new_writer (hfree : σ.writerActive = false) (ht : t.IsSound) (hmode : t.mode = .write)
    (hactive : σ'.writerActive = true)
    (htxns : ∀ y, σ'.txns[y]? = if x = y then some t else σ.txns[y]?) : σ'.Orderly := by
  have hwriter {y : String} (hy : σ'.IsWriter y) : x = y := by
    by_cases hxy : x = y
    · exact hxy
    · rw [IsWriter, htxns, if_neg hxy] at hy
      exact absurd hy (h.not_isWriter hfree y)
  refine ⟨⟨fun _ => ⟨x, t, ?_, hmode⟩, fun _ => hactive⟩, ?_, ?_⟩
  · rw [htxns, if_pos rfl]
  · exact fun hy hz => (hwriter hy).symm.trans (hwriter hz)
  · intro y u hu
    rw [htxns] at hu
    split at hu
    · cases hu
      exact ht
    · exact h.sound hu

theorem entered_writer (hfree : σ.writerActive = false) (x : String) :
    ({ σ with writerActive := true }.entered x { type := .write, mode := .write }).Orderly := by
  have hsound : Txn.IsSound { type := .write, mode := .write } :=
    ⟨by simp, (fun hread => nomatch hread), fun _ => rfl⟩
  refine h.new_writer hfree hsound rfl ?_ (getElem?_entered { σ with writerActive := true } x _)
  -- The transaction that had the name was no writer, so that its end did not free the slot.
  rw [entered, SharedStore.vacated]
  dsimp only
  split
  · next t ht =>
    have hmode : t.mode ≠ .write := fun hmode => h.not_isWriter hfree x ⟨t, ht, hmode⟩
    simp [discarded, SharedStore.ended, hmode]
  · rfl

theorem promotion {r : Except Error Bool} (hpromotion : Promotion x σ r σ') : σ'.Orderly := by
  cases hpromotion with
  | @turns t ht hmode htype hfree =>
    have hsound : Txn.IsSound { t with mode := .write } :=
      ⟨(h.sound ht).offered, fun hread => by simp [htype] at hread, fun hread => by cases hread⟩
    exact h.new_writer hfree hsound rfl rfl (getElem?_promoted σ x t)
  | _ => exact h

theorem collected (ht : σ.txns[x]? = some t) (hmode : t.mode = .write) :
    (σ.collected x t c).Orderly := by
  refine ⟨?_, ?_, ?_⟩
  · exact h.slot.trans (exists_congr fun y => (isWriter_collected ht).symm)
  · exact fun hy hz => h.unique ((isWriter_collected ht).1 hy) ((isWriter_collected ht).1 hz)
  · intro y u hu
    rw [getElem?_collected] at hu
    split at hu
    · cases hu
      exact ⟨(h.sound ht).offered, (h.sound ht).reads, fun hread => by simp [hmode] at hread⟩
    · exact h.sound hu

theorem collection {r : Except Error Unit} (hcollection : Collection x c σ r σ') : σ'.Orderly := by
  cases hcollection with
  | notWriter => exact h
  | refused hpromotion => exact (h.promotion hpromotion).congr rfl rfl
  | accepted hpromotion ht hmode => exact (h.promotion hpromotion).collected ht hmode

theorem commitChanges (batch : List Change) :
    ((commitChanges batch).run.run σ).2.Orderly := by
  rw [run_commitChanges]
  split
  · exact h.congr rfl rfl
  · split
    · exact h.congr rfl rfl
    · exact h.congr rfl rfl

/-- **Transactions stay in order**, whatever becomes of a request. -/
theorem outcome (houtcome : Outcome σ op r σ') : σ'.Orderly := by
  cases houtcome with
  | reads x hwrite hoffered =>
    exact h.entered_reader ⟨hoffered, fun _ => rfl, fun _ => rfl⟩ rfl x
  | writes x hfree => exact h.entered_writer hfree x
  | promotes hpromotion => exact h.promotion hpromotion
  | collects hop hcollection => exact h.collection hcollection
  | ends hop ht hcommit => exact (h.ended ht).congr rfl rfl
  | commits ht hmode => exact (h.ended ht).commitChanges _
  | refuses hop hfree hrefuses => exact h.congr rfl rfl
  | applies hop hfree haccepts => exact h.commitChanges _
  | works hop => exact h.congr rfl rfl
  | keeps hop => exact h.congr rfl rfl
  | closes hs => exact h.congr rfl rfl
  | reopens hs hattach => exact orderly_of_no_txns rfl rfl
  | _ => exact h

end Orderly

/-! ### New writers -/

namespace IsWriter

theorem of_promotion {r : Except Error Bool} (h : Promotion x σ r σ')
    (hy : σ'.IsWriter y) : σ.IsWriter y ∨ σ.writerActive = false := by
  cases h with
  | turns ht hmode htype hfree => exact .inr hfree
  | _ => exact .inl hy

theorem of_collection {r : Except Error Unit} (h : Collection x c σ r σ')
    (hy : σ'.IsWriter y) : σ.IsWriter y ∨ σ.writerActive = false := by
  cases h with
  | notWriter => exact .inl hy
  | refused hpromotion => exact of_promotion hpromotion hy
  | accepted hpromotion ht hmode => exact of_promotion hpromotion ((isWriter_collected ht).1 hy)

/-- **The slot was free for a new writer**, whatever became of the request. -/
theorem of_outcome (h : Outcome σ op r σ') (hy : σ'.IsWriter y) :
    σ.IsWriter y ∨ σ.writerActive = false := by
  cases h with
  | reads x hwrite hoffered =>
    rw [isWriter_entered] at hy
    split at hy
    · cases hy
    · exact .inl hy
  | writes x hfree => exact .inr hfree
  | promotes hpromotion => exact of_promotion hpromotion hy
  | collects hop hcollection => exact of_collection hcollection hy
  | @ends x op t events hop ht hcommit =>
    have hended : (σ.ended x t).IsWriter y := hy
    exact .inl (isWriter_ended.1 hended).2
  | commits ht hmode =>
    rw [IsWriter, txns_commitChanges] at hy
    exact .inl (isWriter_ended.1 hy).2
  | applies hop hfree haccepts => exact .inr hfree
  | reopens hs hattach =>
    obtain ⟨t, ht, hmode⟩ := hy
    rw [Std.ExtTreeMap.getElem?_empty] at ht
    cases ht
  | _ => exact .inl hy

end IsWriter

end SharedStore

end Clearance
