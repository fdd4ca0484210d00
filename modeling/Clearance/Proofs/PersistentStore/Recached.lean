import Clearance.Proofs.PersistentStore.Alike

/-!
# Stores with other caches

Two stores that differ in how much they may cache soon differ in what they have cached, and in how
often they have read their databases. Nothing else depends on the cache: the stores have the same
answers and are written to alike, also when their database is out of reach.

## Main definitions

* `Clearance.PersistentStore.recached` — a store with another cache.
* `Clearance.PersistentStore.Settled` — caches and counts that a store can have come to.
* `Clearance.PersistentStore.Recached` — stores that differ in their caches.

## Main results

* `Clearance.PersistentStore.agree_lookup_recached`, `Clearance.PersistentStore.agree_inspect`,
  `Clearance.PersistentStore.listing_recached`, `Clearance.PersistentStore.agree_apply_recached` —
  the requests to such stores.
* `Clearance.PersistentStore.run_attach_recached` — opening them.
-/

namespace Clearance.PersistentStore

variable {s : PersistentStore} {size reads : Nat} {cache : BoundedCache Triple (List Label)}

/-! ### Databases out of reach -/

/-- The counts of readings that a store can have come to: a database that cannot be read for the
first time has never been read. -/
def Tally (s : PersistentStore) (reads : Nat) : Prop := reads = 0 ∨ s.Reachable

/-- What comes of reading a database for the first time. -/
def reached (s : PersistentStore) : Except Error Unit :=
  if s.access.readable && s.access.joinable then .ok () else .error .backend

/-- The labels of a triple, for a store that has not read its database yet. -/
def found (s : PersistentStore) (t : Triple) : Except Error (List Label) :=
  ((s.resolved t).run.run 0).1

theorem steady_consult_tally (s : PersistentStore) :
    Steady s.Tally (consult s.access).run s.reached := by
  intro reads hreads
  by_cases hreach : s.Reachable
  · obtain ⟨hanswer, -⟩ := steady_consult hreach reads trivial
    refine ⟨hanswer.trans ?_, .inr hreach⟩
    rw [reached, hreach.1, hreach.2]
    rfl
  · -- Every reading is the first one here, since none has succeeded.
    obtain rfl := hreads.resolve_right hreach
    have hclosed : (s.access.readable && s.access.joinable) = false := by
      rw [Reachable, ← Bool.and_eq_true] at hreach
      exact Bool.eq_false_iff.2 hreach
    have hconsult : (consult s.access).run.run 0 = (.error .backend, 0) := by
      rw [consult, run_get_bind, Bool.and_or_distrib_left, hclosed]
      simp only [ne_eq, not_true, decide_false, Bool.and_false, Bool.or_false, Bool.false_eq_true,
        if_false]
      rfl
    rw [reached, if_neg (Bool.eq_false_iff.1 hclosed)]
    exact ⟨congrArg Prod.fst hconsult, .inl (congrArg Prod.snd hconsult)⟩

/-- What is recorded for a pattern is found by every reading or by none. -/
theorem steady_probe_tally (s : PersistentStore) (shape : Shape) (key : Triple) :
    Steady s.Tally (s.probe shape key).run ((s.probe shape key).run.run 0).1 := by
  have hprobe : ∃ r, Steady s.Tally (s.probe shape key).run r := by
    unfold probe
    rcases (((encoded s.options.bufferCapacity
      (encodeKey s.options.format shape key .lookup)).run.run s.table).1) with e | ⟨known, bytes⟩
    · exact ⟨_, steady_pure _⟩
    cases known with
    | false => exact ⟨_, steady_pure _⟩
    | true =>
      refine ⟨_, Steady.bind_except (y := ExceptT.mk s.reached)
        (l := fun _ =>
          ExceptT.mk ((s.db.find? (.ofShape shape) bytes).elim (.ok []) LabelList.decode))
        (steady_consult_tally s) fun _ _ => ?_⟩
      cases s.db.find? (.ofShape shape) bytes with
      | some value => exact fun reads hreads => ⟨(steady_lift _ reads trivial).1, hreads⟩
      | none => exact steady_pure _
  obtain ⟨r, hr⟩ := hprobe
  rwa [(hr 0 (.inl rfl)).1]

theorem steady_resolved (s : PersistentStore) (t : Triple) :
    Steady s.Tally (s.resolved t).run (s.found t) := by
  have hresolve := steady_resolve (steady_probe_tally s) t s.patternsLoaded
  rwa [found, resolved, (hresolve 0 (.inl rfl)).1]

/-! ### Other caches -/

/-- A store with another cache, of another size, and another count of its readings. -/
def recached (s : PersistentStore) (size : Nat) (cache : BoundedCache Triple (List Label))
    (reads : Nat) : PersistentStore :=
  { s with options := { s.options with lookupCacheSize := size }, cache, reads }

/-- A cache and a count of readings that a store can have come to. -/
structure Settled (s : PersistentStore) (cache : BoundedCache Triple (List Label)) (reads : Nat) :
    Prop where
  /-- The cache holds nothing but answers of the store. -/
  caches : cache.Throughout fun t labels => s.found t = .ok labels
  /-- A database that cannot be read has not been read. -/
  tally : s.Tally reads

/-- Stores that differ in their caches, the second of which has a given size, and in what they have
counted. -/
inductive Recached (size : Nat) : PersistentStore → PersistentStore → Prop where
  /-- Both stores have settled caches. -/
  | intro {s : PersistentStore} {cache : BoundedCache Triple (List Label)} {reads : Nat}
    (left : s.Settled s.cache s.reads) (right : s.Settled cache reads) :
    Recached size s (s.recached size cache reads)

/-! ### Reading -/

theorem agree_lookup_recached (t : Triple) : Agree (Recached size) (lookup t) (lookup t) := by
  rintro s _ ⟨left, right⟩
  rename_i cache reads
  cases hclosed : s.closed with
  | true =>
    have hclosed' : (s.recached size cache reads).closed = true := hclosed
    rw [run_lookup_closed hclosed, run_lookup_closed hclosed']
    exact ⟨rfl, .intro left right⟩
  | false =>
    have hclosed' : (s.recached size cache reads).closed = false := hclosed
    obtain ⟨cache₁, reads₁, hrun, hcache, hreads⟩ :=
      run_lookup_of_steady hclosed (steady_resolved s) left.tally left.caches t
    obtain ⟨cache₂, reads₂, hrun', hcache', hreads'⟩ :=
      run_lookup_of_steady hclosed' (steady_resolved s) right.tally right.caches t
    rw [hrun, hrun']
    exact ⟨rfl, .intro (s := { s with cache := cache₁, reads := reads₁ }) ⟨hcache, hreads⟩
      ⟨hcache', hreads'⟩⟩

/-- Looking at a store counts as a reading, if its database can be read. -/
theorem run_inspect {α : Type} (view : PersistentStore → α) (hreads : s.Tally s.reads) :
    ∃ reads, (inspect view).run.run s = (if s.closed then .error .closed
        else s.reached.map fun _ => view s, { s with reads }) ∧ s.Tally reads := by
  by_cases hclosed : s.closed
  · refine ⟨s.reads, ?_, hreads⟩
    rw [inspect, run_requireOpen_bind, if_pos hclosed, if_pos hclosed]
  · obtain ⟨hanswer, hreads'⟩ := steady_consult_tally s s.reads hreads
    have hread := run_read (consult s.access) s
    rw [hanswer] at hread
    refine ⟨_, ?_, hreads'⟩
    rw [inspect, run_requireOpen_bind, if_neg hclosed, if_neg hclosed, run_get_bind]
    cases hreached : s.reached with
    | error e =>
      rw [hreached] at hread
      rw [run_bind_error hread]
      rfl
    | ok u =>
      rw [hreached] at hread
      rw [run_bind_ok hread]
      rfl

theorem agree_inspect {α : Type} {view : PersistentStore → α}
    (hview : ∀ (s : PersistentStore) cache reads, view (s.recached size cache reads) = view s) :
    Agree (Recached size) (inspect view) (inspect view) := by
  rintro s _ ⟨left, right⟩
  rename_i cache reads
  obtain ⟨reads₁, hrun, hreads⟩ := run_inspect view left.tally
  obtain ⟨reads₂, hrun', hreads'⟩ := run_inspect (s := s.recached size cache reads) view right.tally
  rw [hrun, hrun', hview]
  exact ⟨rfl,
    .intro (s := { s with reads := reads₁ }) ⟨left.caches, hreads⟩ ⟨right.caches, hreads'⟩⟩

theorem entriesOfRows_recached (s : PersistentStore) :
    ∀ rows, (s.recached size cache reads).entriesOfRows rows = s.entriesOfRows rows
  | [] => rfl
  | row :: rows => by
    have hrow : (s.recached size cache reads).entryOfRow row = s.entryOfRow row := rfl
    rw [entriesOfRows, entriesOfRows, hrow, entriesOfRows_recached s rows]

theorem listing_recached {s' : PersistentStore} (h : Recached size s s') :
    (listing.run s).1 = (listing.run s').1 ∧
      Recached size (listing.run s).2 (listing.run s').2 := by
  refine agree_listing (fun s s' h => ?_)
    (agree_inspect fun s _ _ => entriesOfRows_recached s (rows s.db)) h
  obtain ⟨-, -⟩ := h
  rfl

/-! ### Writing -/

theorem entriesOf_recached (options : StoreOptions) : ∀ batch : List Change,
    entriesOf { options with lookupCacheSize := size } batch = entriesOf options batch
  | [] => rfl
  | c :: cs => by
    have hentry : entryOf { options with lookupCacheSize := size } c = entryOf options c := by
      cases c <;> rfl
    rw [entriesOf, entriesOf, hentry, entriesOf_recached options cs]

/-- A batch is written whatever is cached, and then nothing is. -/
theorem written_recached (s : PersistentStore) (batch : List Change) :
    (s.recached size cache reads).written batch
      = (s.written batch).map fun r => r.recached size cache.clear reads := by
  unfold written
  by_cases hclosed : s.closed
  · have hclosed' : (s.recached size cache reads).closed = true := hclosed
    rw [if_pos hclosed, if_pos hclosed']
    rfl
  · have hclosed' : ¬ (s.recached size cache reads).closed = true := hclosed
    have hentries : entriesOf (s.recached size cache reads).options batch
        = entriesOf s.options batch := entriesOf_recached s.options batch
    have htable : (s.recached size cache reads).table = s.table := rfl
    rw [if_neg hclosed, if_neg hclosed', hentries, htable]
    rcases (entriesOf s.options batch).run.run s.table with ⟨e | entries, table⟩
    · rfl
    · have hwrite : (s.recached size cache reads).access.write (s.recached size cache reads).db
          (s.recached size cache reads).options.mode
          ((s.recached size cache reads).writeSet entries table s.table.size)
          = s.access.write s.db s.options.mode (s.writeSet entries table s.table.size) := rfl
      dsimp only
      rw [hwrite]
      cases s.access.write s.db s.options.mode (s.writeSet entries table s.table.size) with
      | error e => rfl
      | ok db => rfl

theorem agree_apply_recached (batch : List Change) :
    Agree (Recached size) (apply batch) (apply batch) := by
  rintro s _ ⟨left, right⟩
  rename_i cache reads
  rw [run_apply, run_apply, written_recached]
  cases hwritten : s.written batch with
  | error e => exact ⟨rfl, .intro left right⟩
  | ok r =>
    obtain ⟨entries, table, db, -, -, -, rfl⟩ := written_eq_ok hwritten
    exact ⟨rfl, .intro ⟨BoundedCache.throughout_clear, left.tally⟩
      ⟨BoundedCache.throughout_clear, right.tally⟩⟩

/-! ### Closing and opening -/

theorem Recached.setClosed {s' : PersistentStore} (h : Recached size s s') :
    Recached size { s with closed := true } { s' with closed := true } := by
  obtain ⟨left, right⟩ := h
  rename_i cache reads
  exact .intro (s := { s with closed := true }) ⟨left.caches, left.tally⟩
    ⟨right.caches, right.tally⟩

/-- **Opening a store with another size of cache** gives the same store with another cache. -/
theorem run_attach_recached (dir : String) (access : Access) (options : StoreOptions)
    (db : Database) : (attach dir access { options with lookupCacheSize := size }).run.run db
      = ((((attach dir access options).run.run db).1.map fun s =>
          s.recached size { capacity := size } 0), ((attach dir access options).run.run db).2) := by
  rw [run_attach_eq, run_attach_eq]
  dsimp only
  rcases (claimFormat dir access options.format).run.run db with ⟨e | u, db'⟩
  · rfl
  · dsimp only
    cases savedTable db' options.format with
    | error e => rfl
    | ok table => rfl

/-- A store that has just been opened has cached and read nothing. -/
theorem recached_of_attach {dir : String} {access : Access} {options : StoreOptions}
    {db : Database} (h : ((attach dir access options).run.run db).1 = .ok s) :
    Recached size s (s.recached size { capacity := size } 0) := by
  obtain ⟨table, rfl⟩ := eq_opened_of_attach (Prod.ext h rfl)
  exact .intro ⟨BoundedCache.throughout_of_slots_eq_nil rfl, .inl rfl⟩
    ⟨BoundedCache.throughout_of_slots_eq_nil rfl, .inl rfl⟩

end Clearance.PersistentStore
