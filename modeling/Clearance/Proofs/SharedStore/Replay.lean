import Clearance.Proofs.PersistentStore.OneByOne
import Clearance.Proofs.SharedStore.Steps

/-!
# Replaying changes

The changes that a store took in batches, mixed with lookups, are *replayed* one at a time by
another store that began in the same state. Afterwards both stores answer every lookup alike, and
would be the same after a restart: what a store gives is decided by the changes that it took and
their order, not by the batches in which it took them, nor by what was looked up meanwhile.

## Main definitions

* `Clearance.Store.Opened` — stores in memory, and persistent stores that were just opened.
* `Clearance.Store.replay` — a store after changes that it takes one at a time.
* `Clearance.Store.restarted` — what a restart leaves of a store.
* `Clearance.Store.Replica` — stores that would be the same after a restart, both of them serving.

## Main results

* `Clearance.Store.Replica.replay_batch` — a batch is replayed.
* `Clearance.Store.Replica.lookup_eq`, `Clearance.Store.Replica.lookup` — lookups.
-/

namespace Clearance

namespace PersistentStore

variable {s s' r : PersistentStore}

/-- Whether a store is open, its database can be used, and its cached answers are right. -/
structure Serves (s : PersistentStore) : Prop where
  /-- The store is open. -/
  open_eq : s.closed = false
  /-- The database can be read and written. -/
  access_eq : s.access = {}
  /-- The cached answers are right. -/
  caches : s.Caches s.cache

/-- A store that was just opened serves. -/
theorem serves_of_attach {dir : String} {options : StoreOptions} {db db' : Database}
    (h : (attach dir {} options).run.run db = (.ok s, db')) : s.Serves := by
  obtain ⟨table, rfl⟩ := eq_opened_of_attach h
  exact ⟨rfl, rfl, BoundedCache.throughout_of_slots_eq_nil rfl⟩

theorem Serves.written {batch : List Change} (h : s.Serves) (hwritten : s.written batch = .ok s') :
    s'.Serves := by
  obtain ⟨entries, table, db, -, -, -, rfl⟩ := written_eq_ok hwritten
  exact ⟨h.open_eq, h.access_eq, BoundedCache.throughout_clear⟩

/-- Looking up a triple. -/
theorem Serves.run_lookup (h : s.Serves) (t : Triple) :
    ∃ s', (PersistentStore.lookup t).run.run s = (s.answer t.canonical, s') ∧ s'.Serves ∧
      s'.reattached = s.reattached := by
  obtain ⟨cache, reads, hrun, hcaches⟩ :=
    PersistentStore.run_lookup h.open_eq (PersistentStore.reachable_of_access_eq h.access_eq)
      h.caches t
  exact ⟨_, hrun, ⟨h.open_eq, h.access_eq, hcaches⟩, rfl⟩

theorem answer_congr (h : s.reattached = r.reattached) (t : Triple) : s.answer t = r.answer t := by
  show s.reattached.answer t = r.reattached.answer t
  rw [h]

end PersistentStore

namespace Store

variable {S S' R : Store}

/-- Whether a store is one that is kept in memory, or a persistent one that was just opened on some
database. -/
inductive Opened : Store → Prop where
  /-- A store in memory. -/
  | memory (m : MemoryStore) : Opened (.memory m)
  /-- A persistent store. -/
  | persistent {s : PersistentStore} {dir : String} {options : StoreOptions} {db db' : Database}
    (h : (PersistentStore.attach dir {} options).run.run db = (.ok s, db')) : Opened (.persistent s)

/-- A store after changes that it takes one at a time, if it takes them all. -/
def replay (S : Store) : List Change → Option Store
  | [] => some S
  | c :: cs => match (Store.apply [c]).run.run S with
    | (.ok _, S') => S'.replay cs
    | (.error _, _) => none

/-- What a restart leaves of a store. -/
def restarted : Store → Store
  | .persistent s => .persistent s.reattached
  | S => S

theorem replay_append (S : Store) (cs more : List Change) :
    S.replay (cs ++ more) = (S.replay cs).bind fun S' => S'.replay more := by
  induction cs generalizing S with
  | nil => rfl
  | cons c cs ih =>
    rw [List.cons_append, replay, replay]
    rcases (Store.apply [c]).run.run S with ⟨e | a, S'⟩
    · rfl
    · exact ih S'

/-- Two stores in memory that are the same, two persistent stores that serve and would be the same
after a restart, or twice the store without labels. -/
inductive Replica : Store → Store → Prop where
  /-- Both stores are in memory. -/
  | memory (m : MemoryStore) : Replica (.memory m) (.memory m)
  /-- Both stores have no labels. -/
  | empty : Replica .empty .empty
  /-- Both stores are persistent. -/
  | persistent {s r : PersistentStore} (hs : s.Serves) (hr : r.Serves)
    (h : s.reattached = r.reattached) : Replica (.persistent s) (.persistent r)

theorem Opened.replica (h : S.Opened) : Replica S S := by
  cases h with
  | memory m => exact .memory m
  | persistent h =>
    have hserves := PersistentStore.serves_of_attach h
    exact .persistent hserves hserves rfl

namespace Replica

variable (h : Replica S R)

include h

theorem restarted_eq : S.restarted = R.restarted := by
  cases h with
  | memory m => rfl
  | empty => rfl
  | persistent hs hr h => exact congrArg Store.persistent h

/-- Replicas answer lookups alike. -/
theorem lookup_eq (t : Triple) :
    ((Store.lookup t).run.run S).1 = ((Store.lookup t).run.run R).1 := by
  cases h with
  | memory m => rfl
  | empty => rfl
  | @persistent s r hs hr h =>
    obtain ⟨s', hs', -, -⟩ := hs.run_lookup t
    obtain ⟨r', hr', -, -⟩ := hr.run_lookup t
    rw [run_lookup_persistent, run_lookup_persistent, hs', hr']
    exact PersistentStore.answer_congr h t.canonical

/-- A store that has looked up a triple is still a replica. -/
theorem lookup (t : Triple) : Replica ((Store.lookup t).run.run S).2 R := by
  cases h with
  | memory m =>
    rw [run_lookup_memory]
    exact .memory m
  | empty =>
    rw [run_lookup_empty]
    exact .empty
  | @persistent s r hs hr h =>
    obtain ⟨s', hs', hserves, hsame⟩ := hs.run_lookup t
    rw [run_lookup_persistent, hs']
    exact .persistent hserves hr (hsame.trans h)

end Replica

theorem replay_memory : ∀ {batch : List Change} {m m' : MemoryStore},
    m.apply batch = (.ok (), m') → (Store.memory m).replay batch = some (.memory m')
  | [], m, m', h => by
    cases h
    rfl
  | c :: cs, m, m', h => by
    rw [MemoryStore.apply] at h
    cases hc : m.change c with
    | error e =>
      rw [hc] at h
      cases h
    | ok m₁ =>
      rw [hc] at h
      rw [replay, run_apply_memory, MemoryStore.apply, hc]
      exact replay_memory h

theorem replay_persistent :
    ∀ {batch : List Change} {s s' r : PersistentStore}, s.Serves → r.Serves →
    s.reattached = r.reattached → s.written batch = .ok s' →
    ∃ r', (Store.persistent r).replay batch = some (.persistent r') ∧ r'.Serves ∧
      s'.reattached = r'.reattached
  | [], s, s', r, hs, hr, hsame, h =>
    ⟨r, rfl, hr, (PersistentStore.reattached_of_written_nil hs.access_eq h).trans hsame⟩
  | c :: cs, s, s', r, hs, hr, hsame, h => by
    obtain ⟨s₁, s₂, hfirst, hrest, hlast⟩ := PersistentStore.written_cons hs.access_eq h
    have hclosed : s.closed = r.closed := hs.open_eq.trans hr.open_eq.symm
    obtain ⟨r₁, hr₁, hsame₁⟩ := PersistentStore.written_congr hsame hclosed hfirst
    obtain ⟨r', hreplay, hr', hsame'⟩ :=
      replay_persistent (hs.written hfirst) (hr.written hr₁) hsame₁ hrest
    refine ⟨r', ?_, hr', hlast.symm.trans hsame'⟩
    rw [replay, run_apply_persistent, hr₁]
    exact hreplay

/-- **A batch is replayed** one change at a time. -/
theorem Replica.replay_batch (h : Replica S R) {batch : List Change}
    (happly : (Store.apply batch).run.run S = (.ok (), S')) :
    ∃ R', R.replay batch = some R' ∧ Replica S' R' := by
  cases h with
  | memory m =>
    rw [run_apply_memory] at happly
    rcases hm : m.apply batch with ⟨r, m'⟩
    rw [hm] at happly
    cases happly
    exact ⟨_, replay_memory hm, .memory m'⟩
  | empty =>
    cases batch with
    | nil =>
      cases happly
      exact ⟨.empty, rfl, .empty⟩
    | cons c cs => cases happly
  | @persistent s r hs hr h =>
    rw [run_apply_persistent] at happly
    cases hwritten : s.written batch with
    | error e =>
      rw [hwritten] at happly
      cases happly
    | ok s' =>
      rw [hwritten] at happly
      cases happly
      obtain ⟨r', hreplay, hr', hsame⟩ := replay_persistent hs hr h hwritten
      exact ⟨_, hreplay, .persistent (hs.written hwritten) hr' hsame⟩

end Store

end Clearance
