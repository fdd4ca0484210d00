import Clearance.Proofs.SharedStore.Effects
import Clearance.Proofs.SharedStore.Lifetime
import Clearance.Proofs.SharedStore.Replay

/-!
# What a store has taken

After any history a store is what the changes make of it that it has taken, one after the other: a
store in memory keeps what the last change about each pattern said, and a persistent store would be,
after a restart, the same as one that took the changes one at a time. How the changes were handed
over, what was refused meanwhile, what was looked up, and whether the store was closed and opened
again makes no difference.

## Main definitions

* `Clearance.Store.Follows` — persistent stores that are what changes make of a store.

## Main results

* `Clearance.Store.of_replay` — properties of stores that take changes one at a time.
* `Clearance.SharedStore.exists_holds_run`, `Clearance.SharedStore.follows_run` — histories of
  stores in memory, and of persistent stores.
* `Clearance.SharedStore.run_lookup_of_coherent` — lookups in open stores.
-/

namespace Clearance

open PersistentStore (Coherent Serves)

namespace Store

variable {dir : String} {options : StoreOptions} {r₀ : PersistentStore} {S S' : Store}
  {cs more : List Change}

/-- **A property that every change keeps** holds after changes that are taken one at a time. -/
theorem of_replay {P : Change → Prop} {I : List Change → PersistentStore → Prop}
    (hstep : ∀ {cs : List Change} {c : Change} {s s' : PersistentStore}, I cs s → P c →
      s.written [c] = .ok s' → I (cs ++ [c]) s') :
    ∀ {more cs : List Change} {s : PersistentStore} {R : Store}, I cs s → (∀ c ∈ more, P c) →
      (Store.persistent s).replay more = some R → ∃ r, R = .persistent r ∧ I (cs ++ more) r
  | [], cs, s, R, h, _, hreplay => by
    cases hreplay
    rw [List.append_nil]
    exact ⟨s, rfl, h⟩
  | c :: more, cs, s, R, h, hmore, hreplay => by
    rw [replay, run_apply_persistent] at hreplay
    cases hwritten : s.written [c] with
    | error e =>
      rw [hwritten] at hreplay
      cases hreplay
    | ok s' =>
      rw [hwritten] at hreplay
      have hrest := of_replay hstep (hstep h (hmore c List.mem_cons_self) hwritten)
        (fun c' hc' => hmore c' (List.mem_cons_of_mem _ hc')) hreplay
      rwa [List.append_assoc] at hrest

/-- Whether a store is persistent and coherent, and would be the same after a restart as what
changes make of a given store. -/
def Follows (dir : String) (options : StoreOptions) (r₀ : PersistentStore) (cs : List Change)
    (S : Store) : Prop :=
  ∃ s r, S = .persistent s ∧ s.Coherent dir options ∧
    (Store.persistent r₀).replay cs = some (.persistent r) ∧ r.Serves ∧ s.reattached = r.reattached

/-- A coherent store follows itself as it would be after a restart. -/
theorem follows_reattached {s : PersistentStore} (h : s.Coherent dir options) :
    Follows dir options s.reattached [] (.persistent s) :=
  ⟨s, s.reattached, rfl, h, rfl, ⟨rfl, h.access_eq, h.reattached.caches⟩, rfl⟩

/-- A store that is read once more still follows. -/
theorem Follows.reread (h : Follows dir options r₀ cs S) (hread : S.Reread S') :
    Follows dir options r₀ cs S' := by
  cases hread with
  | same => exact h
  | counted reads =>
    obtain ⟨_, r, ⟨⟩, hcoherent, hreplay, hr, hsame⟩ := h
    exact ⟨_, r, rfl, { hcoherent with }, hreplay, hr, hsame⟩

/-- **What a request does to a store** is what the changes do that it takes. -/
theorem Follows.effect {P : Change → Prop} {taken : List Change} (h : Follows dir options r₀ cs S)
    (heffect : S.Effect P taken S') : Follows dir options r₀ (cs ++ taken) S' := by
  have hnone {S' : Store} (h : Follows dir options r₀ cs S') :
      Follows dir options r₀ (cs ++ []) S' := (List.append_nil cs).symm ▸ h
  cases heffect with
  | none => exact hnone h
  | taken hbatch happly =>
    obtain ⟨s, r, rfl, hcoherent, hreplay, hr, hsame⟩ := h
    rw [run_apply_persistent] at happly
    cases hwritten : s.written taken with
    | error e =>
      rw [hwritten] at happly
      cases happly
    | ok s' =>
      rw [hwritten] at happly
      cases happly
      obtain ⟨-, -, -, hopen, -⟩ := PersistentStore.written_eq_ok hwritten
      -- A batch that is written is the same as its changes, written one by one.
      have hs : s.Serves := ⟨hopen, hcoherent.access_eq, hcoherent.caches⟩
      obtain ⟨r', hreplay', hr', hsame'⟩ := replay_persistent hs hr hsame hwritten
      refine ⟨s', r', rfl, hcoherent.written hwritten, ?_, hr', hsame'⟩
      rw [replay_append, hreplay]
      exact hreplay'
  | refused hbatch happly =>
    obtain ⟨s, r, rfl, hcoherent, hreplay, hr, hsame⟩ := h
    rw [run_apply_persistent] at happly
    cases hwritten : s.written _ with
    | error e =>
      rw [hwritten] at happly
      cases happly
      exact hnone ⟨s, r, rfl, hcoherent, hreplay, hr, hsame⟩
    | ok s' =>
      rw [hwritten] at happly
      cases happly
  | lookup t =>
    obtain ⟨s, r, rfl, hcoherent, hreplay, hr, hsame⟩ := h
    obtain ⟨cache, reads, hstate, hcaches⟩ := s.state_lookup t
    rw [run_lookup_persistent, hstate]
    exact hnone ⟨_, r, rfl, { hcoherent with caches := (hcaches hcoherent.caches).1 }, hreplay, hr,
      hsame⟩
  | isEmpty => exact hnone (h.reread S.reread_isEmpty)
  | graph => exact hnone (h.reread S.reread_graph)
  | properties => exact hnone (h.reread S.reread_properties)
  | closed hs =>
    subst hs
    obtain ⟨_, r, ⟨⟩, hcoherent, hreplay, hr, hsame⟩ := h
    exact hnone ⟨_, r, rfl, { hcoherent with }, hreplay, hr, hsame⟩
  | reopened hs hattach =>
    subst hs
    obtain ⟨s, r, ⟨⟩, hcoherent, hreplay, hr, hsame⟩ := h
    cases hcoherent.run_attach.symm.trans hattach
    exact hnone ⟨_, r, rfl, hcoherent.reattached, hreplay, hr, hsame⟩

/-- A store in memory keeps what the last change about each pattern said, whatever a request
does. -/
theorem exists_holds_of_effect {taken : List Change}
    (h : ∃ m, S = .memory m ∧ MemoryStore.Holds cs m)
    (heffect : S.Effect Change.HasShape taken S') :
    ∃ m, S' = .memory m ∧ MemoryStore.Holds (cs ++ taken) m := by
  obtain ⟨m, rfl, hholds⟩ := h
  have hnone : ∃ m', Store.memory m = .memory m' ∧ MemoryStore.Holds (cs ++ []) m' :=
    ⟨m, rfl, (List.append_nil cs).symm ▸ hholds⟩
  cases heffect with
  | taken hbatch happly =>
    obtain ⟨m', hm'⟩ := m.exists_apply_eq hbatch
    rw [run_apply_memory, hm'] at happly
    cases happly
    exact ⟨m', rfl, hholds.apply hm'⟩
  | refused hbatch happly =>
    obtain ⟨m', hm'⟩ := m.exists_apply_eq hbatch
    rw [run_apply_memory, hm'] at happly
    cases happly
  | lookup t =>
    rw [run_lookup_memory]
    exact hnone
  | closed hs => cases hs
  | reopened hs hattach => cases hs
  | _ => exact hnone

end Store

namespace SharedStore

variable {dir : String} {options : StoreOptions} {r₀ s : PersistentStore} {σ : SharedStore}

/-- **A persistent store is what the changes make of it that it has taken**, after any history. -/
theorem follows_run (h : Store.Follows dir options r₀ [] σ.store) (ops : List Op) :
    Store.Follows dir options r₀ (taken ops σ) (run ops σ).2.store := by
  have hcollected : Collected (fun _ => True) σ := fun _ _ _ _ _ => trivial
  exact effects_run Store.Follows.effect h hcollected fun op _ =>
    Op.provides_of_changes fun _ _ => trivial

/-- A new persistent store is what the changes make of it that it has taken. -/
theorem follows_fresh (dir : String) (options : StoreOptions) (ops : List Op) :
    Store.Follows dir options (.fresh dir options)
      (taken ops { store := .persistent (.fresh dir options) })
      (run ops { store := .persistent (.fresh dir options) }).2.store :=
  follows_run (Store.follows_reattached (PersistentStore.coherent_fresh dir options)) ops

/-- **A store in memory keeps what the last change said that it has taken**, about each pattern. -/
theorem exists_holds_run {ops : List Op} (hops : ∀ op ∈ ops, op.Provides Change.HasShape) :
    ∃ m, (run ops { store := .memory {} }).2.store = .memory m ∧
      MemoryStore.Holds (taken ops { store := .memory {} }) m := by
  have hstart : ∃ m, Store.memory {} = .memory m ∧ MemoryStore.Holds [] m :=
    ⟨_, rfl, MemoryStore.holds_nil⟩
  have hcollected : Collected Change.HasShape { store := .memory {} } := collected_of_no_txns rfl
  exact effects_run (I := fun cs S => ∃ m, S = .memory m ∧ MemoryStore.Holds cs m)
    Store.exists_holds_of_effect hstart hcollected hops

/-- What a coherent store that is open answers to a lookup. -/
theorem run_lookup_of_coherent (hs : σ.store = .persistent s) (h : s.Coherent dir options)
    (hopen : s.closed = false) (t : Triple) :
    ((lookup t).run.run σ).1 = s.answer t.canonical := by
  obtain ⟨cache, reads, hrun, -⟩ := PersistentStore.run_lookup hopen
    (PersistentStore.reachable_of_access_eq h.access_eq) h.caches t
  rw [lookup, run_onStore, hs, Store.run_lookup_persistent, hrun]

end SharedStore

end Clearance
