import Clearance.Proofs.Agreement
import Clearance.Proofs.PersistentStore.Answers

/-!
# Looking at a persistent store

Whether nothing is recorded, what there is to know of a store, and its entries are all found in one
way: an open store whose database can be read is looked at. Looking counts as a reading of the
database, and leaves everything else as it is.

## Main definitions

* `Clearance.PersistentStore.inspect` — looking at a store.
* `Clearance.PersistentStore.counted` — a store that was looked at.

## Main results

* `Clearance.PersistentStore.state_inspect`, `Clearance.PersistentStore.state_listing` — what
  looking leaves of a store.
* `Clearance.PersistentStore.run_inspect_of_access`, `Clearance.PersistentStore.run_listing` —
  stores whose databases are within reach.
* `Clearance.PersistentStore.agree_listing` — what is listed of two stores.
-/

namespace Clearance.PersistentStore

variable {s s' : PersistentStore}

/-! ### Looking at stores -/

/-- What there is to know of a store. -/
def facts (s : PersistentStore) : List (String × String) :=
  [("kind", "persistent"), ("path", s.dir), ("format", s.options.format.name),
    ("mode", s.options.mode.name)]
    ++ Keyspace.all.map (fun space => ("entries." ++ space.name, toString (s.db.count space)))
    ++ [("patterns_loaded", toString s.patternsLoaded)]
    ++ if s.options.format = .byNodeId then [("node_ids", toString s.table.size)] else []

/-- What can be seen of an open store whose database can be read. -/
def inspect {α : Type} (view : PersistentStore → α) : PersistentM α := do
  requireOpen
  let s ← get
  read (consult s.access)
  return view s

theorem isEmpty_eq_inspect : isEmpty = inspect fun s => s.db.isEmpty := rfl

theorem properties_eq_inspect : properties = inspect facts := rfl

/-- All entries are listed by looking at an open store, if its keys can be read. -/
theorem run_listing_eq_inspect (s : PersistentStore) :
    listing.run s = if !s.options.format.isReversible then
        (([], .error (.unsupported (.listing s.options.format.name))), s)
      else match (inspect fun s => s.entriesOfRows (rows s.db)).run.run s with
        | (.ok entries, s') => (entries, s')
        | (.error e, s') => (([], .error e), s') := by
  unfold listing
  rw [StateT.run_bind, StateT.run_get, pure_bind]
  dsimp only
  by_cases hreversible : s.options.format.isReversible = true
  · simp only [hreversible, Bool.not_true, Bool.false_eq_true, if_false]
    rw [StateT.run_bind, inspect, run_requireOpen_bind, run_requireOpen_bind]
    by_cases hclosed : s.closed = true
    · rw [if_pos hclosed, if_pos hclosed]
      rfl
    · rw [if_neg hclosed, if_neg hclosed, run_get_bind]
      rcases hread : (read (consult s.access)).run.run s with ⟨e | u, s'⟩
      · rw [run_bind_error hread]
        rfl
      · rw [run_bind_ok hread]
        rfl
  · simp only [hreversible, Bool.not_false, if_true]
    rfl

/-- What is listed of two stores is the same if what is seen of their rows is the same. -/
theorem agree_listing {R : PersistentStore → PersistentStore → Prop}
    (hformat : ∀ s s', R s s' → s'.options.format = s.options.format)
    (hinspect : Agree R (inspect fun s => s.entriesOfRows (rows s.db))
      (inspect fun s => s.entriesOfRows (rows s.db))) (h : R s s') :
    (listing.run s).1 = (listing.run s').1 ∧ R (listing.run s).2 (listing.run s').2 := by
  obtain ⟨hanswer, hstate⟩ := hinspect s s' h
  rw [run_listing_eq_inspect, run_listing_eq_inspect, hformat s s' h]
  split
  · exact ⟨rfl, h⟩
  · rcases hrun : (inspect fun s => s.entriesOfRows (rows s.db)).run.run s with ⟨e | r, t⟩ <;>
      rcases hrun' : (inspect fun s => s.entriesOfRows (rows s.db)).run.run s' with
        ⟨e' | r', t'⟩ <;>
        rw [hrun, hrun'] at hanswer hstate <;> cases hanswer
    · exact ⟨rfl, hstate⟩
    · exact ⟨rfl, hstate⟩

/-! ### What looking leaves -/

/-- Looking at a store leaves it as it is, but for the number of readings. -/
theorem state_inspect {α : Type} (view : PersistentStore → α) (s : PersistentStore) :
    ∃ reads, ((inspect view).run.run s).2 = { s with reads } := by
  have hread := run_read (consult s.access) s
  rw [inspect, run_requireOpen_bind]
  split
  · exact ⟨s.reads, rfl⟩
  · rw [run_get_bind]
    rcases hrun : (consult s.access).run.run s.reads with ⟨e | u, reads⟩
    · rw [hrun] at hread
      rw [run_bind_error hread]
      exact ⟨reads, rfl⟩
    · rw [hrun] at hread
      rw [run_bind_ok hread]
      exact ⟨reads, rfl⟩

theorem state_listing (s : PersistentStore) : ∃ reads, (listing.run s).2 = { s with reads } := by
  rw [run_listing_eq_inspect]
  split
  · exact ⟨s.reads, rfl⟩
  · obtain ⟨reads, hstate⟩ := state_inspect (fun s => s.entriesOfRows (rows s.db)) s
    split
    · next hrun => exact ⟨reads, by rw [← hstate, hrun]⟩
    · next hrun => exact ⟨reads, by rw [← hstate, hrun]⟩

/-! ### Databases within reach -/

/-- A store whose database has been read once more. -/
def counted (s : PersistentStore) : PersistentStore := { s with reads := s.reads + 1 }

/-- Looking at a store whose database can be read counts as a reading. -/
theorem run_inspect_of_access {α : Type} (view : PersistentStore → α) (haccess : s.access = {}) :
    (inspect view).run.run s
      = if s.closed then (.error .closed, s) else (.ok (view s), s.counted) := by
  have hconsult : (read (consult s.access)).run.run s = (.ok (), s.counted) := by
    rw [haccess]
    rfl
  rw [inspect, run_requireOpen_bind, run_get_bind, run_bind_ok hconsult, run_pure]

theorem run_listing (haccess : s.access = {}) :
    listing.run s = if !s.options.format.isReversible then
        (([], .error (.unsupported (.listing s.options.format.name))), s)
      else if s.closed then (([], .error .closed), s)
      else (s.entriesOfRows (rows s.db), s.counted) := by
  rw [run_listing_eq_inspect, run_inspect_of_access _ haccess]
  by_cases hclosed : s.closed = true
  · rw [if_pos hclosed, if_pos hclosed]
  · rw [if_neg hclosed, if_neg hclosed]

end Clearance.PersistentStore
