import Clearance.Proofs.PersistentStore.Soundness
import Clearance.Proofs.SharedStore.Outcome

/-!
# Closing for good

A persistent store keeps its options, and once it is closed it stays closed; no request makes
another kind of store of it, or a persistent store of one that was none. Only opening the database
again would undo this.

## Main definitions

* `Clearance.Store.Ages` — what may become of a store that is not opened again.
* `Clearance.SharedStore.NeverOpens` — work that does not open a store again.

## Main results

* `Clearance.Store.ages_apply`, `Clearance.Store.ages_lookup` and so on — work on a store.
* `Clearance.SharedStore.Outcome.ages`, `Clearance.SharedStore.neverOpens_perform` — requests.
-/

namespace Clearance

namespace Store

/-- What may become of a store that is not opened again: a persistent one keeps its options and does
not open. -/
inductive Ages : Store → Store → Prop where
  /-- Both are persistent. -/
  | persistent {s s' : PersistentStore} (hoptions : s'.options = s.options)
    (hclosed : s.closed = true → s'.closed = true) : Ages (.persistent s) (.persistent s')
  /-- Neither is persistent. -/
  | transient {S S' : Store} (h : S.persistent? = none) (h' : S'.persistent? = none) : Ages S S'

variable {S S' S'' : Store}

theorem Ages.refl : ∀ S : Store, Ages S S
  | .persistent _ => .persistent rfl id
  | .memory _ => .transient rfl rfl
  | .empty => .transient rfl rfl

theorem Ages.of_eq (h : S' = S) : Ages S S' := by
  rw [h]
  exact .refl S

theorem Ages.trans (h : Ages S S') (h' : Ages S' S'') : Ages S S'' := by
  cases h with
  | persistent hoptions hclosed =>
    cases h' with
    | persistent hoptions' hclosed' =>
      exact .persistent (hoptions'.trans hoptions) fun h => hclosed' (hclosed h)
    | transient hnone _ => cases hnone
  | transient hnone hnone' =>
    cases h' with
    | persistent _ _ => cases hnone'
    | transient _ hnone'' => exact .transient hnone hnone''

/-! ### Work on a store -/

theorem ages_apply (batch : List Change) (S : Store) : Ages S ((apply batch).run.run S).2 := by
  cases S with
  | memory m =>
    rw [run_apply_memory]
    exact .transient rfl rfl
  | empty =>
    cases batch with
    | nil => exact .refl _
    | cons c cs => exact .refl _
  | persistent s =>
    rw [run_apply_persistent]
    cases hwritten : s.written batch with
    | error e => exact .refl _
    | ok s' =>
      obtain ⟨entries, table, db, -, -, -, rfl⟩ := PersistentStore.written_eq_ok hwritten
      exact .persistent rfl id

theorem ages_lookup (t : Triple) (S : Store) : Ages S ((lookup t).run.run S).2 := by
  cases S with
  | memory m =>
    rw [run_lookup_memory]
    exact .refl _
  | empty =>
    rw [run_lookup_empty]
    exact .refl _
  | persistent s =>
    obtain ⟨cache, reads, hstate, -⟩ := PersistentStore.state_lookup s t
    rw [run_lookup_persistent, hstate]
    exact .persistent rfl id

theorem ages_isEmpty (S : Store) : Ages S (isEmpty.run.run S).2 := by
  cases S with
  | memory m => exact .refl _
  | empty => exact .refl _
  | persistent s =>
    obtain ⟨reads, hstate⟩ := PersistentStore.state_inspect (fun s => s.db.isEmpty) s
    show Ages _ (.persistent (PersistentStore.isEmpty.run.run s).2)
    rw [PersistentStore.isEmpty_eq_inspect, hstate]
    exact .persistent rfl id

theorem ages_graph (S : Store) : Ages S (graph.run.run S).2 := by
  cases S with
  | memory m => exact .refl _
  | empty => exact .refl _
  | persistent s =>
    obtain ⟨reads, hstate⟩ := PersistentStore.state_listing s
    rw [run_graph_persistent, hstate]
    exact .persistent rfl id

theorem ages_properties (S : Store) : Ages S (properties.run.run S).2 := by
  cases S with
  | memory m => exact .refl _
  | empty => exact .refl _
  | persistent s =>
    obtain ⟨reads, hstate⟩ := PersistentStore.state_inspect PersistentStore.facts s
    show Ages _ (.persistent (PersistentStore.properties.run.run s).2)
    rw [PersistentStore.properties_eq_inspect, hstate]
    exact .persistent rfl id

end Store

namespace SharedStore

variable {σ σ' : SharedStore} {op : Op}

/-! ### Requests -/

theorem ages_commitChanges (batch : List Change) (σ : SharedStore) :
    Store.Ages σ.store ((commitChanges batch).run.run σ).2.store := by
  have hages := Store.ages_apply batch σ.store
  rw [run_commitChanges]
  split
  · exact .refl _
  · rcases hrun : (Store.apply batch).run.run σ.store with ⟨e | u, S⟩
    · rwa [hrun] at hages
    · rwa [hrun] at hages

theorem Op.IsWork.ages {x : StoreM Answer} (h : op.IsWork x) (S : Store) :
    Store.Ages S (x.run.run S).2 := by
  cases h with
  | apply batch =>
    rw [run_map]
    exact Store.ages_apply batch S
  | lookup t =>
    rw [run_map]
    exact Store.ages_lookup t S
  | isEmpty =>
    rw [run_map]
    exact Store.ages_isEmpty S
  | graph =>
    rw [run_map]
    exact Store.ages_graph S
  | properties =>
    rw [run_map]
    exact Store.ages_properties S

theorem Outcome.ages {r : Except Error Answer} (h : Outcome σ op r σ') (hop : op ≠ .reopen) :
    Store.Ages σ.store σ'.store := by
  cases h with
  | reads x hwrite hoffered => exact .of_eq (store_entered _ _ _)
  | writes x hfree => exact .of_eq (store_entered _ _ _)
  | promotes hpromotion => exact .of_eq hpromotion.store_eq
  | collects hcollects hcollection => exact .of_eq hcollection.store_eq
  | @commits x t ht hmode => exact ages_commitChanges t.pending (σ.ended x t)
  | applies halone hfree haccepts => exact ages_commitChanges _ σ
  | works hwork => exact hwork.ages σ.store
  | closes hs =>
    rw [hs]
    exact .persistent rfl fun _ => rfl
  | reopens hs hattach => exact absurd rfl hop
  | _ => exact .refl _

/-- Whether work on a store, however it ends, does not open the store again. -/
def NeverOpens {α : Type} (x : SharedM α) : Prop := ∀ σ, Store.Ages σ.store (x.run.run σ).2.store

/-- **No request opens a store** that is closed, or changes its options, but for opening its
database again. -/
theorem neverOpens_perform (hop : op ≠ .reopen) : NeverOpens op.perform :=
  fun σ => (outcome_perform op σ).ages hop

/-- What is answered does not count. -/
theorem NeverOpens.of_map {α β : Type} {f : α → β} {x : SharedM α} (h : NeverOpens (f <$> x)) :
    NeverOpens x := by
  intro σ
  have hages := h σ
  rwa [run_map] at hages

theorem neverOpens_close : NeverOpens close := by
  have hperform : NeverOpens (Op.perform .close) := neverOpens_perform (by simp)
  exact hperform.of_map

theorem neverOpens_start (x : String) (type : TxnType) : NeverOpens (start x type) := by
  have hperform : NeverOpens (Op.perform (.start x type)) := neverOpens_perform (by simp)
  exact hperform.of_map

theorem neverOpens_discard (x : String) : NeverOpens (discard x) := by
  have hperform : NeverOpens (Op.perform (.discard x)) := neverOpens_perform (by simp)
  exact hperform.of_map

end SharedStore

end Clearance
