import Clearance.Proofs.Agreement
import Clearance.Proofs.SharedStore.History
import Clearance.Proofs.SharedStore.Steps

/-!
# Shared stores that agree

What transactions do beside working on the store does not depend on the store. So the transactions
on two related stores agree as soon as the stores do, and so do whole histories.

## Main definitions

* `Clearance.Store.Both` — persistent stores that are related.
* `Clearance.SharedStore.Over` — shared stores with related stores and the same transactions.
* `Clearance.SharedStore.Bisimulation` — relations of stores along which all requests agree.

## Main results

* `Clearance.Store.agree_both`, `Clearance.Store.agree_graph_both`,
  `Clearance.SharedStore.agree_close_both` — work on related stores, and closing them.
* `Clearance.SharedStore.Bisimulation.run_agree` — histories of related stores.
-/

namespace Clearance

/-! ### Persistent stores -/

namespace Store

/-- Persistent stores that are related. -/
inductive Both (R : PersistentStore → PersistentStore → Prop) : Store → Store → Prop where
  /-- Both stores are persistent. -/
  | persistent {s s' : PersistentStore} (h : R s s') : Both R (.persistent s) (.persistent s')

variable {R : PersistentStore → PersistentStore → Prop}

theorem Both.exists_eq {S T : Store} (h : Both R S T) :
    ∃ s s', S = .persistent s ∧ T = .persistent s' ∧ R s s' := by
  obtain ⟨h⟩ := h
  exact ⟨_, _, rfl, rfl, h⟩

/-- Work on persistent stores that agrees. -/
theorem agree_both {α : Type} {x : StoreM α} {y : PersistentM α}
    (hx : ∀ s, x.run.run (.persistent s) = ((y.run.run s).1, .persistent (y.run.run s).2))
    (hy : Agree R y y) : Agree (Both R) x x := by
  rintro _ _ ⟨h⟩
  obtain ⟨hanswer, hstate⟩ := hy _ _ h
  rw [hx, hx, hanswer]
  exact ⟨rfl, .persistent hstate⟩

theorem agree_graph_both (hlisting : ∀ s s', R s s' →
      (PersistentStore.listing.run s).1 = (PersistentStore.listing.run s').1 ∧
        R (PersistentStore.listing.run s).2 (PersistentStore.listing.run s').2) :
    Agree (Both R) graph graph := by
  rintro _ _ ⟨h⟩
  obtain ⟨hanswer, hstate⟩ := hlisting _ _ h
  rw [run_graph_persistent, run_graph_persistent, hanswer]
  exact ⟨rfl, .persistent hstate⟩

end Store

namespace SharedStore

variable {R : Store → Store → Prop}

/-- Shared stores with related stores that are alike otherwise. -/
structure Over (R : Store → Store → Prop) (σ τ : SharedStore) : Prop where
  /-- The stores are related. -/
  store : R σ.store τ.store
  /-- Both slots are taken, or none. -/
  writerActive_eq : σ.writerActive = τ.writerActive
  /-- The counts of commits are the same. -/
  commits_eq : σ.commits = τ.commits
  /-- The transactions are the same. -/
  txns_eq : σ.txns = τ.txns
  /-- The events are the same. -/
  events_eq : σ.events = τ.events

theorem agree_onStore {α : Type} {x y : StoreM α} (h : Agree R x y) :
    Agree (Over R) (onStore x) (onStore y) := by
  intro σ τ hστ
  obtain ⟨hanswer, hstore⟩ := h σ.store τ.store hστ.store
  rw [run_onStore, run_onStore]
  exact ⟨hanswer, { hστ with store := hstore }⟩

/-- Related stores are closed alike, if closing keeps the relation. -/
theorem agree_close_both {R : PersistentStore → PersistentStore → Prop}
    (hR : ∀ s s', R s s' → s'.closed = s.closed ∧ s'.dir = s.dir ∧
      R { s with closed := true } { s' with closed := true }) :
    Agree (Over (Store.Both R)) close close := by
  intro σ τ hστ
  obtain ⟨s, s', hσ, hτ, h⟩ := hστ.store.exists_eq
  obtain ⟨hclosed, hdir, hshut⟩ := hR s s' h
  have hevents : (if s'.closed then [] else [Event.storeClosed s'.dir])
      = if s.closed then [] else [Event.storeClosed s.dir] := by rw [hclosed, hdir]
  rw [run_close hσ, run_close hτ, hevents]
  refine ⟨congrArg (fun b => Except.ok (!b)) hclosed.symm,
    { hστ with store := .persistent hshut, events_eq := ?_ }⟩
  show σ.events ++ _ = τ.events ++ _
  rw [hστ.events_eq]

/-! ### Transactions -/

theorem agree_report (e : Event) : Agree (Over R) (report e) (report e) :=
  agree_modify fun _ _ h => { h with events_eq := by rw [h.events_eq] }

theorem agree_setTxn (x : String) (t : Txn) : Agree (Over R) (setTxn x t) (setTxn x t) :=
  agree_modify fun _ _ h => { h with txns_eq := by rw [h.txns_eq] }

theorem agree_txn (x : String) : Agree (Over R) (txn x) (txn x) := by
  refine agree_get_bind fun σ τ h => ?_
  rw [h.txns_eq]
  cases τ.txns[x]? with
  | some t => exact agree_pure t
  | none => exact agree_throw _

theorem agree_takeSlot : Agree (Over R) takeSlot takeSlot := by
  refine agree_get_bind fun σ τ h => ?_
  rw [h.writerActive_eq]
  split
  · exact agree_pure false
  · exact (agree_modify fun _ _ h => { h with writerActive_eq := rfl }).bind fun _ =>
      agree_pure true

theorem agree_finish (x : String) : Agree (Over R) (finish x) (finish x) := by
  refine (agree_txn x).bind fun t => Agree.bind (agree_modify fun σ τ h => ?_) fun _ => agree_pure t
  exact { h with
    txns_eq := by rw [h.txns_eq]
    writerActive_eq := by rw [h.writerActive_eq] }

theorem agree_discard (x : String) : Agree (Over R) (discard x) (discard x) := by
  refine (agree_finish x).bind fun t => ?_
  split
  · exact agree_report _
  · exact agree_pure _

theorem agree_enter (x : String) (t : Txn) : Agree (Over R) (enter x t) (enter x t) := by
  refine agree_get_bind fun σ τ h => ?_
  rw [h.txns_eq]
  split
  · exact (agree_discard x).bind fun _ => agree_setTxn x t
  · exact agree_setTxn x t

theorem agree_start (x : String) (type : TxnType) :
    Agree (Over R) (start x type) (start x type) := by
  cases type with
  | readCommittedPromote => exact agree_throw _
  | write =>
    refine agree_takeSlot.bind fun free => ?_
    cases free with
    | true => exact (agree_enter x _).bind fun _ => agree_pure true
    | false => exact agree_pure false
  | read => exact (agree_enter x _).bind fun _ => agree_pure true
  | readPromote => exact (agree_enter x _).bind fun _ => agree_pure true

theorem agree_promote (x : String) : Agree (Over R) (promote x) (promote x) := by
  refine (agree_txn x).bind fun t => ?_
  split
  · exact agree_pure true
  · refine agree_takeSlot.bind fun free => ?_
    cases free with
    | true => exact (agree_setTxn x _).bind fun _ => agree_pure true
    | false => exact agree_pure false
  · exact agree_throw _

theorem agree_requireWriter (x : String) : Agree (Over R) (requireWriter x) (requireWriter x) := by
  refine (agree_promote x).bind fun writer => ?_
  cases writer with
  | true => exact agree_pure _
  | false => exact agree_throw _

theorem agree_collect (x : String) (c : Change) : Agree (Over R) (collect x c) (collect x c) :=
  (agree_txn x).bind fun _ => agree_setTxn x _

theorem agree_add (hcheck : ∀ S T pattern labels, R S T →
      S.checkEntry pattern labels = T.checkEntry pattern labels)
    (x : String) (pattern : Triple) (labels : List Label) :
    Agree (Over R) (add x pattern labels) (add x pattern labels) := by
  refine (agree_requireWriter x).bind fun _ => agree_get_bind fun σ τ h => ?_
  rw [hcheck _ _ _ _ h.store]
  exact (agree_lift _).bind fun _ => agree_collect x _

theorem agree_requireRemove (hremove : ∀ S T, R S T → S.supportsRemove = T.supportsRemove)
    (t : Triple) : Agree (Over R) (requireRemove t) (requireRemove t) := by
  refine agree_get_bind fun σ τ h => ?_
  rw [hremove _ _ h.store]
  split
  · exact agree_pure _
  · exact (agree_report _).bind fun _ => agree_throw _

theorem agree_remove (hremove : ∀ S T, R S T → S.supportsRemove = T.supportsRemove)
    (x : String) (pattern : Triple) : Agree (Over R) (remove x pattern) (remove x pattern) :=
  (agree_requireWriter x).bind fun _ => (agree_requireRemove hremove pattern).bind fun _ =>
    agree_collect x _

theorem agree_abort (x : String) : Agree (Over R) (abort x) (abort x) :=
  (agree_finish x).bind fun _ => agree_pure _

/-! ### Changes -/

section Changes

variable (happly : ∀ batch, Agree R (Store.apply batch) (Store.apply batch))

include happly

theorem agree_commitChanges (batch : List Change) :
    Agree (Over R) (commitChanges batch) (commitChanges batch) := by
  have hcount : Agree (Over R)
      (modify fun s => { s with commits := s.commits + 1 } : SharedM Unit)
      (modify fun s => { s with commits := s.commits + 1 }) :=
    agree_modify fun σ τ h => { h with commits_eq := by rw [h.commits_eq] }
  unfold commitChanges
  split
  · exact (agree_onStore (happly batch)).bind fun _ => hcount
  · exact hcount

theorem agree_commit (x : String) : Agree (Over R) (commit x) (commit x) := by
  refine (agree_finish x).bind fun t => ?_
  cases t.mode with
  | read => exact agree_pure _
  | write => exact agree_commitChanges happly t.pending

theorem agree_addAlone (hcheck : ∀ S T pattern labels, R S T →
      S.checkEntry pattern labels = T.checkEntry pattern labels)
    (pattern : Triple) (labels : List Label) :
    Agree (Over R) (addAlone pattern labels) (addAlone pattern labels) := by
  refine agree_get_bind fun σ τ h => ?_
  rw [h.writerActive_eq, hcheck _ _ _ _ h.store]
  split
  · exact agree_pure false
  · exact (agree_lift _).bind fun _ =>
      (agree_commitChanges happly _).bind fun _ => agree_pure true

theorem agree_removeAlone (hremove : ∀ S T, R S T → S.supportsRemove = T.supportsRemove)
    (pattern : Triple) : Agree (Over R) (removeAlone pattern) (removeAlone pattern) := by
  refine agree_get_bind fun σ τ h => ?_
  rw [h.writerActive_eq]
  split
  · exact agree_pure false
  · exact (agree_requireRemove hremove pattern).bind fun _ =>
      (agree_commitChanges happly _).bind fun _ => agree_pure true

end Changes

/-! ### Histories -/

/-- A relation of stores along which all requests agree, except perhaps that to open a store
again. -/
structure Bisimulation (R : Store → Store → Prop) : Prop where
  /-- Entries are checked alike. -/
  checkEntry : ∀ S T pattern labels, R S T →
    S.checkEntry pattern labels = T.checkEntry pattern labels
  /-- Entries can be removed from both stores, or from none. -/
  supportsRemove : ∀ S T, R S T → S.supportsRemove = T.supportsRemove
  /-- Both stores are compacted, or none. -/
  compact : ∀ S T, R S T → S.compact = T.compact
  /-- Batches have the same effect. -/
  apply : ∀ batch, Agree R (Store.apply batch) (Store.apply batch)
  /-- The labels of a triple are the same. -/
  lookup : ∀ t, Agree R (Store.lookup t) (Store.lookup t)
  /-- Nothing is recorded in both stores, or in none. -/
  isEmpty : Agree R Store.isEmpty Store.isEmpty
  /-- The entries are the same. -/
  graph : Agree R Store.graph Store.graph
  /-- The properties are the same. -/
  properties : Agree R Store.properties Store.properties
  /-- Both stores were open, or none. -/
  close : Agree (Over R) close close

namespace Bisimulation

theorem agree_compact (h : Bisimulation R) :
    Agree (Over R) SharedStore.compact SharedStore.compact := by
  refine agree_get_bind fun σ τ hστ => ?_
  rw [h.compact _ _ hστ.store]
  refine (agree_lift _).bind fun dir? => ?_
  cases dir? with
  | some dir => exact (agree_report _).bind fun _ => agree_pure true
  | none => exact agree_pure false

theorem perform_agree (h : Bisimulation R) (op : Op)
    (hreopen : op = .reopen → Agree (Over R) SharedStore.reopen SharedStore.reopen) :
    Agree (Over R) op.perform op.perform := by
  cases op with
  | start x type => exact (agree_start x type).map _
  | promote x => exact (agree_promote x).map _
  | add x pattern labels => exact (agree_add h.checkEntry x pattern labels).map _
  | remove x pattern => exact (agree_remove h.supportsRemove x pattern).map _
  | commit x => exact (agree_commit h.apply x).map _
  | abort x => exact (agree_abort x).map _
  | discard x => exact (agree_discard x).map _
  | addAlone pattern labels => exact (agree_addAlone h.apply h.checkEntry pattern labels).map _
  | removeAlone pattern => exact (agree_removeAlone h.apply h.supportsRemove pattern).map _
  | apply batch => exact (agree_onStore (h.apply batch)).map _
  | lookup t => exact (agree_onStore (h.lookup t)).map _
  | isEmpty => exact (agree_onStore h.isEmpty).map _
  | graph => exact (agree_onStore h.graph).map _
  | properties => exact (agree_onStore h.properties).map _
  | compact => exact h.agree_compact.map _
  | close => exact h.close.map _
  | reopen => exact (hreopen rfl).map _

/-- **Histories of stores that agree have the same answers** and lead to stores that agree. -/
theorem run_agree (h : Bisimulation R) : ∀ (ops : List Op) {σ τ : SharedStore},
    (.reopen ∈ ops → Agree (Over R) SharedStore.reopen SharedStore.reopen) → Over R σ τ →
    (run ops σ).1 = (run ops τ).1 ∧ Over R (run ops σ).2 (run ops τ).2
  | [], σ, τ, _, hστ => ⟨rfl, hστ⟩
  | op :: ops, σ, τ, hreopen, hστ => by
    have hop := h.perform_agree op fun heq => hreopen (by simp [heq])
    obtain ⟨hanswer, hstate⟩ := hop σ τ hστ
    obtain ⟨hanswers, hlast⟩ := h.run_agree ops (fun hmem => hreopen (by simp [hmem])) hstate
    rw [run_cons, run_cons, hanswer, hanswers]
    exact ⟨rfl, hlast⟩

end Bisimulation

end SharedStore

end Clearance
