import Clearance.Proofs.PersistentStore.Alike
import Clearance.Proofs.SharedStore.Agreement

/-!
# Restarts

A persistent store is closed and its database is opened again, at any point of any history. The
store that is opened answers every later history as the one that was closed would have done. Between
closing and opening, nothing is answered and nothing is written.

## Main definitions

* `Clearance.SharedStore.Reachable` — the states that histories of a new store lead to.
* `Clearance.Store.Alike` — persistent stores that are alike.

## Main results

* `Clearance.Store.bisimulation_alike` — stores that are alike answer all histories alike.
* `Clearance.SharedStore.restart_keeps_everything`.
-/

namespace Clearance

variable {dir : String} {options options' : StoreOptions}

namespace Store

/-- Persistent stores that are alike. -/
inductive Alike (dir : String) (options options' : StoreOptions) : Store → Store → Prop where
  /-- Both stores are persistent. -/
  | persistent {s s' : PersistentStore} (h : PersistentStore.Alike dir options options' s s') :
    Alike dir options options' (.persistent s) (.persistent s')

theorem Alike.exists_eq {S T : Store} (h : Alike dir options options' S T) :
    ∃ s s', S = .persistent s ∧ T = .persistent s' ∧
      PersistentStore.Alike dir options options' s s' := by
  obtain ⟨h⟩ := h
  exact ⟨_, _, rfl, rfl, h⟩

theorem alike_eq_both :
    Alike dir options options' = Both (PersistentStore.Alike dir options options') := by
  funext S T
  exact propext ⟨fun ⟨h⟩ => ⟨h⟩, fun ⟨h⟩ => ⟨h⟩⟩

end Store

namespace SharedStore

/-! ### Opening again -/

variable {σ : SharedStore} {s s' : PersistentStore}

theorem run_reopen (hs : σ.store = .persistent s) (h : s.Coherent dir options) :
    reopen.run.run σ = (.ok (), { store := .persistent s.reattached, events := σ.events }) := by
  rw [run_reopen_eq hs, h.run_attach]

theorem agree_reopen : Agree (Over (Store.Alike dir options options')) reopen reopen := by
  intro σ τ hστ
  obtain ⟨s, s', hσ, hτ, h⟩ := hστ.store.exists_eq
  rw [run_reopen hσ h.left, run_reopen hτ h.right]
  exact ⟨rfl, ⟨.persistent h.reattached, rfl, rfl, rfl, hστ.events_eq⟩⟩

end SharedStore

/-- **Stores that are alike answer all histories alike.** -/
theorem Store.bisimulation_alike :
    SharedStore.Bisimulation (Store.Alike dir options options') where
  checkEntry S T pattern labels h := by
    obtain ⟨s, s', rfl, rfl, -⟩ := h.exists_eq
    rfl
  supportsRemove S T h := by
    obtain ⟨s, s', rfl, rfl, -⟩ := h.exists_eq
    rfl
  compact S T h := by
    obtain ⟨s, s', rfl, rfl, hs⟩ := h.exists_eq
    rw [compact, compact, hs.closed_eq, hs.left.access_eq, hs.right.access_eq, hs.left.dir_eq,
      hs.right.dir_eq]
  apply batch := alike_eq_both ▸ agree_both (fun _ => rfl) (PersistentStore.agree_apply batch)
  lookup t := alike_eq_both ▸ agree_both (fun _ => rfl) (PersistentStore.agree_lookup t)
  isEmpty := alike_eq_both ▸ agree_both (fun _ => rfl) PersistentStore.agree_isEmpty
  graph := alike_eq_both ▸ agree_graph_both fun _ _ => PersistentStore.listing_alike
  properties := alike_eq_both ▸ agree_both (fun _ => rfl) PersistentStore.agree_properties
  close := alike_eq_both ▸ SharedStore.agree_close_both fun _ _ h =>
    ⟨h.closed_eq.symm, h.right.dir_eq.trans h.left.dir_eq.symm, h.setClosed⟩

/-! ### Closed stores -/

namespace Store

/-- The same persistent store, when it is closed and its database is a given one. -/
inductive Shut (dir : String) (options : StoreOptions) (db : Database) : Store → Store → Prop where
  /-- The store is persistent. -/
  | persistent {s : PersistentStore} (h : s.Coherent dir options) (hclosed : s.closed = true)
    (hdb : s.db = db) : Shut dir options db (.persistent s) (.persistent s)

variable {db : Database}

theorem Shut.exists_eq {S T : Store} (h : Shut dir options db S T) :
    ∃ s, S = .persistent s ∧ T = .persistent s ∧ s.Coherent dir options ∧ s.closed = true ∧
      s.db = db := by
  obtain ⟨h, hclosed, hdb⟩ := h
  exact ⟨_, rfl, rfl, h, hclosed, hdb⟩

/-- Work on a closed store that changes nothing. -/
theorem agree_shut {α : Type} {x : StoreM α}
    (hx : ∀ s, s.Coherent dir options → s.closed = true →
      (x.run.run (.persistent s)).2 = .persistent s) :
    Agree (Shut dir options db) x x := by
  rintro _ _ ⟨h, hclosed, hdb⟩
  rw [hx _ h hclosed]
  exact ⟨rfl, .persistent h hclosed hdb⟩

theorem written_shut {s : PersistentStore} (hclosed : s.closed = true) (batch : List Change) :
    s.written batch = .error .closed := if_pos hclosed

theorem apply_shut {s : PersistentStore} (hclosed : s.closed = true) (batch : List Change) :
    (Store.apply batch).run.run (.persistent s) = (.error .closed, .persistent s) := by
  rw [run_apply_persistent, written_shut hclosed]

theorem lookup_shut {s : PersistentStore} (hclosed : s.closed = true) (t : Triple) :
    (Store.lookup t).run.run (.persistent s) = (.error .closed, .persistent s) := by
  rw [run_lookup_persistent, PersistentStore.run_lookup_closed hclosed]

/-- **A closed store stays as it is** until it is opened again. -/
theorem bisimulation_shut : SharedStore.Bisimulation (Shut dir options db) where
  checkEntry := by
    rintro _ _ _ _ ⟨-⟩
    rfl
  supportsRemove := by
    rintro _ _ ⟨-⟩
    rfl
  compact := by
    rintro _ _ ⟨-⟩
    rfl
  apply batch := agree_shut fun s _ hclosed => by rw [apply_shut hclosed]
  lookup t := agree_shut fun s _ hclosed => by rw [lookup_shut hclosed]
  isEmpty := agree_shut fun s h hclosed => by
    show Store.persistent (PersistentStore.isEmpty.run.run s).2 = _
    rw [PersistentStore.isEmpty_eq_inspect, PersistentStore.run_inspect_of_access _ h.access_eq,
      if_pos hclosed]
  graph := agree_shut fun s h hclosed => by
    show Store.persistent (PersistentStore.listing.run s).2 = _
    rw [PersistentStore.run_listing h.access_eq, if_pos hclosed]
    split <;> rfl
  properties := agree_shut fun s h hclosed => by
    show Store.persistent (PersistentStore.properties.run.run s).2 = _
    rw [PersistentStore.properties_eq_inspect, PersistentStore.run_inspect_of_access _ h.access_eq,
      if_pos hclosed]
  close := by
    intro σ τ hστ
    obtain ⟨s, hσ, hτ, h, hclosed, hdb⟩ := hστ.store.exists_eq
    have hsame : { s with closed := true } = s := by
      cases s
      cases hclosed
      rfl
    rw [SharedStore.run_close hσ, SharedStore.run_close hτ, hsame]
    refine ⟨rfl, { hστ with store := .persistent h hclosed hdb, events_eq := ?_ }⟩
    show σ.events ++ _ = τ.events ++ _
    rw [hστ.events_eq]

end Store

namespace SharedStore

variable {σ : SharedStore}

/-! ### Histories of new stores -/

/-- The states that histories lead to, of a store that was opened on a new database. -/
def Reachable (dir : String) (options : StoreOptions) (σ : SharedStore) : Prop :=
  ∃ s₀ ops, ((PersistentStore.attach dir {} options).run.run {}).1 = .ok s₀ ∧
    σ = (run ops { store := .persistent s₀ }).2

/-- A store that can be reached is coherent. -/
theorem Reachable.exists_coherent (hσ : Reachable dir options σ) :
    ∃ s, σ.store = .persistent s ∧ s.Coherent dir options := by
  obtain ⟨s₀, ops, hattach, rfl⟩ := hσ
  rw [PersistentStore.run_attach_new] at hattach
  cases hattach
  have hstart : Over (Store.Alike dir options options)
      { store := .persistent (PersistentStore.fresh dir options) }
      { store := .persistent (PersistentStore.fresh dir options) } :=
    ⟨.persistent (PersistentStore.coherent_fresh dir options).alike_self, rfl, rfl, rfl, rfl⟩
  obtain ⟨-, hend⟩ := Store.bisimulation_alike.run_agree ops (fun _ => agree_reopen) hstart
  obtain ⟨s, _, hs, _, h⟩ := hend.store.exists_eq
  exact ⟨s, hs, h.left⟩

/-! ### Restarts -/

/-- A store that has been opened again goes on like the one that was closed. -/
theorem run_reattached {τ : SharedStore} {s : PersistentStore} (h : s.Coherent dir options)
    (hopen : s.closed = false) (hτ : τ.store = .persistent s) (later : List Op) :
    (run later τ).1 = (run later { τ with store := .persistent s.reattached }).1 ∧
      (run later τ).2.store.database?
        = (run later { τ with store := .persistent s.reattached }).2.store.database? := by
  have hstart : Over (Store.Alike dir options options) τ
      { τ with store := .persistent s.reattached } := by
    refine ⟨?_, rfl, rfl, rfl, rfl⟩
    rw [hτ]
    exact .persistent (h.alike_reattached hopen)
  obtain ⟨hanswers, hend⟩ := Store.bisimulation_alike.run_agree later (fun _ => agree_reopen) hstart
  refine ⟨hanswers, ?_⟩
  obtain ⟨r, r', hr, hr', halike⟩ := hend.store.exists_eq
  rw [hr, hr', Store.database?, Store.database?, halike.db_eq]

/-- A closed store answers no lookup and takes no changes, whatever happens before it is opened
again. -/
theorem run_shut {τ : SharedStore} {s : PersistentStore} (h : s.Coherent dir options)
    (hclosed : s.closed = true) (hτ : τ.store = .persistent s) {later : List Op}
    (hlater : .reopen ∉ later) :
    ∃ r, (run later τ).2.store = .persistent r ∧ r.closed = true ∧ r.db = s.db := by
  have hstart : Over (Store.Shut dir options s.db) τ τ := by
    refine ⟨?_, rfl, rfl, rfl, rfl⟩
    rw [hτ]
    exact .persistent h hclosed rfl
  obtain ⟨-, hend⟩ :=
    Store.bisimulation_shut.run_agree later (fun hmem => absurd hmem hlater) hstart
  obtain ⟨r, hr, -, -, hr', hdb⟩ := hend.store.exists_eq
  exact ⟨r, hr, hr', hdb⟩

theorem commit_shut {τ : SharedStore} {s : PersistentStore} (hclosed : s.closed = true)
    (hτ : τ.store = .persistent s) {x : String} {t : Txn} (ht : τ.txns[x]? = some t)
    (hmode : t.mode = .write) (hpending : t.pending ≠ []) :
    ((commit x).run.run τ).1 = .error .closed := by
  have hempty : ¬ t.pending.isEmpty = true := by simpa using hpending
  have happly : (Store.apply t.pending).run.run (τ.ended x t).store
      = (.error .closed, .persistent s) := by
    show (Store.apply t.pending).run.run τ.store = _
    rw [hτ, Store.apply_shut hclosed]
  rw [run_commit, ht]
  dsimp only
  rw [hmode]
  dsimp only
  rw [run_commitChanges, if_neg hempty, happly]

/-- Closing a store and opening it again. -/
theorem run_close_reopen {s : PersistentStore} (hs : σ.store = .persistent s)
    (h : s.Coherent dir options) :
    (run [.close, .reopen] σ).1 = [.ok (.flag !s.closed), .ok .done] ∧
      (run [.close, .reopen] σ).2.store = .persistent s.reattached := by
  have hshut : PersistentStore.Coherent dir options { s with closed := true } := { h with }
  have hclose : (close.run.run σ).2.store = .persistent { s with closed := true } := by
    rw [run_close hs]
  rw [run_cons, run_cons, Op.perform, run_map, Op.perform, run_map, run_reopen hclose hshut,
    run_close hs]
  exact ⟨rfl, rfl⟩

/-- **Durability.** After any history of a store on a new database, the store can be closed and its
database opened again with the same options, and the rows are still there. If the store was open,
the new store answers every later history as the old one would have done, whatever transactions
there are on them, and gets the same rows. As long as the store is closed, whatever is tried, it
answers no lookup — cached or not — and refuses batches and commits of writers with changes; and its
rows stay. -/
theorem restart_keeps_everything (hσ : Reachable dir options σ) :
    ∃ s s', σ.store = .persistent s ∧
      (PersistentStore.attach dir {} options).run.run s.db = (.ok s', s.db) ∧
      (run [.close, .reopen] σ).1 = [.ok (.flag !s.closed), .ok .done] ∧
      (run [.close, .reopen] σ).2.store = .persistent s' ∧ s'.db = s.db ∧
      (s.closed = false → ∀ (τ : SharedStore) (later : List Op), τ.store = .persistent s →
        let τ' := { τ with store := .persistent s' }
        (run later τ).1 = (run later τ').1 ∧
          (run later τ).2.store.database? = (run later τ').2.store.database?) ∧
      ∀ later : List Op, .reopen ∉ later →
        let τ := (run (.close :: later) σ).2
        τ.store.database? = some s.db ∧
          (∀ t, ((lookup t).run.run τ).1 = .error .closed) ∧
          (∀ batch, ((onStore (Store.apply batch)).run.run τ).1 = .error .closed) ∧
          ∀ x t, τ.txns[x]? = some t → t.mode = .write → t.pending ≠ [] →
            ((commit x).run.run τ).1 = .error .closed := by
  obtain ⟨s, hs, h⟩ := hσ.exists_coherent
  obtain ⟨hanswers, hstore⟩ := run_close_reopen hs h
  refine ⟨s, s.reattached, hs, ?_, hanswers, hstore, rfl,
    fun hopen τ later hτ => run_reattached h hopen hτ later, fun later hlater => ?_⟩
  · rw [← h.dir_eq, ← h.options_eq, ← h.access_eq]
    exact h.run_attach
  · have hshut : PersistentStore.Coherent dir options { s with closed := true } := { h with }
    have hclose : (Op.close.perform.run.run σ).2.store = .persistent { s with closed := true } := by
      rw [Op.perform, run_map, run_close hs]
    obtain ⟨r, hr, hclosed, hdb⟩ := run_shut hshut rfl hclose hlater
    rw [run_cons]
    dsimp only
    refine ⟨?_, fun t => ?_, fun batch => ?_, fun x t => commit_shut hclosed hr⟩
    · rw [hr, Store.database?, hdb]
    · rw [lookup, run_onStore, hr, Store.lookup_shut hclosed]
    · rw [run_onStore, hr, Store.apply_shut hclosed]

/-- A new store after a commit that gave numbers to nodes. -/
def numbered : SharedStore :=
  (run [.start "x" .write, .add "x" ⟨.uri "s", .blank "b", .any⟩ [.deny], .commit "x"]
    { store := .persistent (PersistentStore.fresh "labels" { format := .byNodeId }) }).2

/-- A triple whose labels are found under a pattern with a wildcard: they are looked up in the
store, in vain while it is closed, and in the store that was opened again. -/
theorem restart_keeps_everything_numbered :
    let t : Triple := ⟨.uri "s", .blank "b", .uri "o"⟩
    Reachable "labels" { format := .byNodeId } numbered ∧
      (∃ s s', numbered.store = .persistent s ∧
        (PersistentStore.attach "labels" {} { format := .byNodeId }).run.run s.db
          = (.ok s', s.db)) ∧
      ((lookup t).run.run numbered).1 = .ok [.deny] ∧
      ((lookup t).run.run (run [.close] numbered).2).1 = .error .closed ∧
      ((lookup t).run.run (run [.close, .reopen] numbered).2).1 = .ok [.deny] := by
  intro t
  have hreachable : Reachable "labels" { format := .byNodeId } numbered :=
    ⟨_, _, by rw [PersistentStore.run_attach_new], rfl⟩
  have hfound : ((lookup t).run.run numbered).1 = .ok [.deny] :=
    eq_ok_of_toOption (by decide +kernel)
  have hlive : numbered.store.persistent?.map (·.closed) = some false := by decide +kernel
  obtain ⟨s, s', hs, hattach, -, hstore, -, hlater, hclosed⟩ := restart_keeps_everything hreachable
  have hopen : s.closed = false := by
    rw [hs] at hlive
    exact Option.some.inj hlive
  refine ⟨hreachable, ⟨s, s', hs, hattach⟩, hfound, (hclosed [] (by simp)).2.1 t, ?_⟩
  -- The answer of the store that was opened again is that of a history of one lookup.
  have hanswers := (hlater hopen numbered [.lookup t] hs).1
  rw [run_cons, run_cons, Op.perform, run_map, run_map, hfound] at hanswers
  have hfound' : ((lookup t).run.run { numbered with store := .persistent s' }).1.map Answer.labels
      = .ok (.labels [.deny]) := (List.cons.inj hanswers).1.symm
  rw [lookup, run_onStore] at hfound' ⊢
  rw [hstore]
  rcases hrun : ((Store.lookup t).run.run (.persistent s')).1 with e | labels
  · rw [hrun] at hfound'
    cases hfound'
  · rw [hrun] at hfound'
    cases hfound'
    rfl

end SharedStore

end Clearance
