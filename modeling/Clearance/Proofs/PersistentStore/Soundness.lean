import Clearance.Proofs.PersistentStore.Inspection
import Clearance.Proofs.PersistentStore.StoredKeys

/-!
# Sound stores

A persistent store lives through batches that are written or refused, lookups, times in which its
database is out of reach, and restarts, also with other options. What the store says is *sound* all
the while: its memory would agree with its database if the database were in reach, the rows are the
entries of patterns that were added, its format is the one it began with, numbers that it gave stay,
and what it knew of wildcards it knows for ever.

## Main definitions

* `Clearance.PersistentStore.reconnected` — a store whose database is in reach again.
* `Clearance.PersistentStore.Confirms` — readings that give a certain answer, if any.
* `Clearance.PersistentStore.Sound` — sound stores.

## Main results

* `Clearance.PersistentStore.confirms_resolved` — readings of a database that may be out of reach.
* `Clearance.PersistentStore.state_lookup` — what a lookup leaves of a store.
* `Clearance.PersistentStore.Sound.written`, `Clearance.PersistentStore.Sound.attach` — batches and
  restarts.
-/

namespace Clearance

/-- The name of a format tells the format. -/
theorem KeyFormat.eq_of_name_eq {format format' : KeyFormat} (h : format.name = format'.name) :
    format = format' := by
  rcases format with _ | _ | (_ | _ | _ | _ | _) <;>
    rcases format' with _ | _ | (_ | _ | _ | _ | _) <;>
    first | rfl | exact absurd h (by decide)

namespace PersistentStore

open NodeTable

variable {P : Triple → Prop} {s₀ s s' : PersistentStore} {batch : List Change}

/-! ### Reading -/

/-- Whether a reading of the database gives a certain answer, if it gives any. -/
def Confirms {α : Type} (x : ReadM α) (r : Except Error α) : Prop :=
  ∀ n a n', x.run.run n = (.ok a, n') → r = .ok a

theorem confirms_firstAnswer {probe : Shape → Triple → ReadM (List Label)}
    {answer : Shape → Triple → ExceptT Error Id (List Label)}
    (h : ∀ shape key, Confirms (probe shape key) (answer shape key).run) (t : Triple) :
    ∀ shapes : List Shape, Confirms (firstAnswer probe t shapes) (firstAnswer answer t shapes).run
  | [], n, ls, n', hrun => by
    cases hrun
    rfl
  | shape :: shapes, n, ls, n', hrun => by
    obtain ⟨found, n₁, hprobe, hrest⟩ := run_bind_eq_ok hrun
    rw [run_firstAnswer_cons, h shape _ n found n₁ hprobe]
    dsimp only
    by_cases hfound : found.isEmpty = true
    · rw [if_pos hfound] at hrest ⊢
      exact confirms_firstAnswer h t shapes n₁ ls n' hrest
    · rw [if_neg hfound] at hrest ⊢
      cases hrest
      rfl

theorem confirms_probe (s : PersistentStore) (shape : Shape) (key : Triple) :
    Confirms (s.probe shape key) (s.recorded shape key) := by
  intro n ls n' hrun
  unfold probe at hrun
  unfold recorded
  obtain ⟨⟨known, bytes⟩, n₁, hkey, hrest⟩ := run_bind_eq_ok hrun
  rcases hencoded : ((encoded s.options.bufferCapacity
    (encodeKey s.options.format shape key .lookup)).run.run s.table).1 with e | ⟨known', bytes'⟩
  · rw [hencoded] at hkey
    cases hkey
  rw [hencoded] at hkey
  cases hkey
  cases known with
  | false =>
    cases hrest
    rfl
  | true =>
    obtain ⟨_, n₂, -, hrest⟩ := run_bind_eq_ok hrest
    dsimp only
    cases hfind : s.db.find? (.ofShape shape) bytes with
    | none =>
      rw [hfind] at hrest
      cases hrest
      rfl
    | some value =>
      rw [hfind] at hrest
      dsimp only at hrest ⊢
      cases hdecode : LabelList.decode value with
      | error e =>
        rw [hdecode] at hrest
        cases hrest
      | ok labels =>
        rw [hdecode] at hrest
        cases hrest
        rfl

/-- **What is read from a database that may be out of reach** is the answer of the store. -/
theorem confirms_resolved (s : PersistentStore) (t : Triple) :
    Confirms (s.resolved t) (s.answer t) := by
  unfold resolved answer resolve
  split
  · exact confirms_firstAnswer (s.confirms_probe) t _
  · intro n ls n' hrun
    cases hrun

/-- What a lookup leaves of a store. What it gives is the answer of the store, whether the database
is in reach or not. -/
theorem state_lookup (s : PersistentStore) (t : Triple) : ∃ cache reads,
    ((lookup t).run.run s).2 = { s with cache, reads } ∧ (s.Caches s.cache → s.Caches cache ∧
      ∀ ls, ((lookup t).run.run s).1 = .ok ls → s.answer t.canonical = .ok ls) := by
  by_cases hclosed : s.closed = true
  · rw [run_lookup_closed hclosed]
    refine ⟨s.cache, s.reads, rfl, fun hcache => ⟨hcache, fun ls hls => ?_⟩⟩
    cases hls
  rw [lookup, run_requireOpen_bind, if_neg hclosed, run_get_bind]
  have hget (hcache : s.Caches s.cache) := BoundedCache.Throughout.get hcache t.canonical
  have hfound := s.cache.get_fst t.canonical
  rcases h : s.cache.get t.canonical with ⟨found, cache⟩
  rw [h] at hget hfound
  cases found with
  | some labels =>
    refine ⟨cache, s.reads, rfl, fun hcache => ⟨hget hcache, fun ls hls => ?_⟩⟩
    cases hls
    exact BoundedCache.Throughout.of_find? hcache hfound.symm
  | none =>
    have hread := run_read (s.resolved t.canonical) { s with cache }
    rw [run_set_bind]
    dsimp only at hread ⊢
    rcases hrun : (s.resolved t.canonical).run.run s.reads with ⟨e | labels, n⟩
    · rw [hrun] at hread
      rw [run_bind_error hread]
      refine ⟨cache, n, rfl, fun hcache => ⟨hget hcache, fun ls hls => ?_⟩⟩
      cases hls
    · have hlabels := s.confirms_resolved t.canonical s.reads labels n hrun
      rw [hrun] at hread
      rw [run_bind_ok hread]
      refine ⟨cache.insert t.canonical labels, n, rfl, fun hcache =>
        ⟨(hget hcache).insert hlabels, fun ls hls => ?_⟩⟩
      cases hls
      exact hlabels

/-! ### Sound stores -/

/-- A store whose database is in reach again. -/
def reconnected (s : PersistentStore) : PersistentStore := { s with access := {} }

/-- A batch that was written could have been written when the database was in reach. -/
theorem written_reconnected (h : s.written batch = .ok s') :
    s.reconnected.written batch = .ok s'.reconnected := by
  obtain ⟨entries, table, db, hopen, hentries, hwrite, rfl⟩ := written_eq_ok h
  refine written_of_write (s := s.reconnected) hopen hentries ?_
  rw [Access.write] at hwrite ⊢
  split at hwrite
  · rwa [reconnected, Bool.true_or, if_pos rfl]
  · cases hwrite

/-- A sound store, whose rows are the entries of patterns with a property, and what it has kept of a
store that it was before. -/
structure Sound (P : Triple → Prop) (s₀ s : PersistentStore) : Prop where
  /-- The memory agrees with the database. -/
  coherent : s.reconnected.Coherent s₀.dir s.options
  /-- Rows are entries. -/
  keyed : Keyed P s.options.format s.table s.patternsLoaded s.db
  /-- The format stays. -/
  format_eq : s.options.format = s₀.options.format
  /-- Numbers stay. -/
  numbers : s₀.table.Extends s.table
  /-- If there were wildcards, it is still known. -/
  marked : s₀.patternsLoaded = true → s.patternsLoaded = true

theorem sound_fresh (P : Triple → Prop) (dir : String) (options : StoreOptions) :
    Sound P (fresh dir options) (fresh dir options) where
  coherent := coherent_fresh dir options
  keyed := keyed_fresh dir options
  format_eq := rfl
  numbers := .refl
  marked := id

namespace Sound

variable (h : Sound P s₀ s)

include h

theorem grown : NodeTable.empty.Extends s.table := h.coherent.grown

theorem fits : s.table.Fits := h.coherent.fits

/-- A sound store has kept what it has. -/
theorem refl : Sound P s s where
  coherent := { h.coherent with dir_eq := rfl }
  keyed := h.keyed
  format_eq := rfl
  numbers := .refl
  marked := id

/-- What a store has cached and counted does not matter, nor whether it is closed or out of
reach. -/
theorem congr {cache : BoundedCache Triple (List Label)} {access : Access} {reads : Nat}
    {closed : Bool} (hcache : s.Caches cache) :
    Sound P s₀ { s with cache, access, reads, closed } where
  coherent := { h.coherent with access_eq := rfl, caches := hcache }
  keyed := h.keyed
  format_eq := h.format_eq
  numbers := h.numbers
  marked := h.marked

/-- **A sound store stays sound** when it writes a batch. -/
theorem written (hbatch : ∀ c ∈ batch, P c.pattern.canonical)
    (hwritten : s.written batch = .ok s') : Sound P s₀ s' := by
  have hreconnected := written_reconnected hwritten
  have hkeyed := Keyed.written (s := s.reconnected) h.keyed h.coherent hbatch hreconnected
  have hmarked := patternsLoaded_of_written hwritten
  obtain ⟨entries, table, db, -, hentries, -, rfl⟩ := written_eq_ok hwritten
  obtain ⟨hext, -, -⟩ := table_of_entriesOf hentries
  exact ⟨h.coherent.written hreconnected, hkeyed, h.format_eq, h.numbers.trans hext,
    fun h₀ => hmarked (h.marked h₀)⟩

/-- What a store is that is opened on the database of a sound store: the options and the reach of
the database may be others, but the format is the same, and so are the numbers and the mark for
wildcards. -/
theorem attach_eq {access : Access} {options : StoreOptions} {db : Database}
    (hattach : (attach s.dir access options).run.run s.db = (.ok s', db)) :
    options.format = s.options.format ∧ s' = { s.reattached with
      options, access, cache := { capacity := options.lookupCacheSize } } := by
  obtain ⟨u, db₁, hclaim, hattach⟩ := run_bind_eq_ok hattach
  have hrecorded : s.db.setting? formatSetting = some s.options.format.name := h.coherent.format
  have hformat : options.format = s.options.format := by
    rw [claimFormat, run_get_bind, hrecorded] at hclaim
    dsimp only at hclaim
    split at hclaim
    · cases hclaim
    · next hname => exact (KeyFormat.eq_of_name_eq (Decidable.not_not.1 hname)).symm
  rw [run_claimFormat (hformat ▸ hrecorded)] at hclaim
  cases hclaim
  have htable : savedTable s.db s.options.format = .ok s.table := h.coherent.savedTable_eq
  have hpatterns : s.patternsLoaded = decide (s.db.setting? patternsSetting = some holds) :=
    h.coherent.patterns
  rw [run_get_bind, hformat, htable] at hattach
  cases hattach
  rw [reattached, hpatterns]
  exact ⟨hformat, rfl⟩

/-- **A sound store stays sound** when its database is opened again, whatever the options. -/
theorem attach {access : Access} {options : StoreOptions} {db : Database}
    (hattach : (PersistentStore.attach s.dir access options).run.run s.db = (.ok s', db)) :
    Sound P s₀ s' := by
  obtain ⟨hformat, rfl⟩ := h.attach_eq hattach
  exact {
    coherent := { h.coherent with
      options_eq := rfl
      access_eq := rfl
      format := hformat ▸ h.coherent.format
      table_eq := fun hother => h.coherent.table_eq (hformat ▸ hother)
      caches := BoundedCache.throughout_of_slots_eq_nil rfl }
    keyed := hformat ▸ h.keyed
    format_eq := hformat.trans h.format_eq
    numbers := h.numbers
    marked := h.marked }

end Sound

end PersistentStore

end Clearance
