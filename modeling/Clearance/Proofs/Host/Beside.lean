import Clearance.Proofs.Keeping
import Clearance.Proofs.SharedStore.Closing
import Clearance.Store.Host

/-!
# Work beside the registry

Whatever is done in a host, a store that has a number keeps its kind and its options, and does not
open once it is closed; it may be let go of. New stores get new numbers. All work but opening and
closing through the registry leaves the registry as it is.

## Main definitions

* `Clearance.Host.Ages` — what may become of the stores of a host.
* `Clearance.Host.Beside` — what work beside the registry may lead to.
* `Clearance.Host.Gives` — such work that gives one answer in whatever state.
* `Clearance.Host.mount` — the opening of a directory, before the store has a number.

## Main results

* `Clearance.Host.run_onStore` — work on a store.
* `Clearance.Host.run_hold` — letting a handle stand for a store.
* `Clearance.Host.openDirectory_eq_ok` — a directory that is opened.
-/

namespace Clearance

theorem Held.live?_eq_some {held : Held} {s : PersistentStore} :
    held.live? = some s ↔ held.shared.store = .persistent s ∧ s.closed = false := by
  unfold Held.live?
  split
  · next s' hs =>
    rw [hs]
    cases hclosed : s'.closed with
    | true =>
      rw [if_pos rfl]
      refine ⟨nofun, fun ⟨h, h'⟩ => ?_⟩
      cases h
      rw [hclosed] at h'
      cases h'
    | false =>
      rw [if_neg Bool.false_ne_true]
      refine ⟨fun h => ?_, fun ⟨h, _⟩ => ?_⟩
      · cases h
        exact ⟨rfl, hclosed⟩
      · cases h
        rfl
  · next hnone => exact ⟨nofun, fun ⟨h, _⟩ => absurd h (hnone s)⟩

/-- A store stays what it is when its database is read from the disk. -/
theorem Held.ages_load (held : Held) (d : Disk) :
    held.shared.store.Ages (held.load d).shared.store := by
  unfold Held.load
  split
  · next place s hplace hlive =>
    rw [(live?_eq_some.1 hlive).1]
    exact .persistent rfl id
  · exact .refl _

theorem Held.load_eq_self {held : Held} (h : held.live? = none) (d : Disk) :
    held.load d = held := by
  unfold Held.load
  rw [h]
  split
  · next hlive => cases hlive
  · rfl

/-- An open store is open when its database is read from the disk. -/
theorem Held.exists_load {held : Held} {s : PersistentStore} (hlive : held.live? = some s)
    (d : Disk) : ∃ s', (held.load d).shared.store = .persistent s' ∧ s'.closed = false := by
  obtain ⟨hstore, hopen⟩ := Held.live?_eq_some.1 hlive
  unfold Held.load
  rw [hlive]
  split
  · next hs =>
    cases hs
    exact ⟨_, rfl, hopen⟩
  · exact ⟨s, hstore, hopen⟩

namespace Host

/-- What may become of the stores of a host. -/
structure Ages (host host' : Host) : Prop where
  /-- Numbers are not given again. -/
  fresh_le : host.fresh ≤ host'.fresh
  /-- A store was there already, or is new. -/
  store {n : Nat} {held' : Held} (h : host'.stores[n]? = some held') :
    (∃ held, host.stores[n]? = some held ∧ held.shared.store.Ages held'.shared.store) ∨
      host.fresh ≤ n ∧ n < host'.fresh

/-- What work beside the registry may lead to. -/
structure Beside (host host' : Host) : Prop extends Ages host host' where
  /-- The registry is the same. -/
  registry_eq : host'.registry = host.registry

variable {host host' host'' host₀ : Host} {n m : Nat} {h x : String} {held : Held} {place : Place}
  {dir : String} {options : StoreOptions} {α β : Type}

theorem Ages.trans (h : Ages host host') (h' : Ages host' host'') : Ages host host'' where
  fresh_le := Nat.le_trans h.fresh_le h'.fresh_le
  store {n held''} hheld := by
    rcases h'.store hheld with ⟨held', hheld', hages'⟩ | ⟨hnew, hlt⟩
    · rcases h.store hheld' with ⟨held, hheld, hages⟩ | ⟨hnew, hlt⟩
      · exact .inl ⟨held, hheld, hages.trans hages'⟩
      · exact .inr ⟨hnew, Nat.lt_of_lt_of_le hlt h'.fresh_le⟩
    · exact .inr ⟨Nat.le_trans h.fresh_le hnew, hlt⟩

theorem Beside.trans (h : Beside host host') (h' : Beside host' host'') : Beside host host'' :=
  ⟨h.toAges.trans h'.toAges, h'.registry_eq.trans h.registry_eq⟩

/-- All that is there was there before. -/
theorem Ages.of_stores (hfresh : host'.fresh = host.fresh)
    (hstores : ∀ (n : Nat) (held' : Held), host'.stores[n]? = some held' →
      ∃ held, host.stores[n]? = some held ∧ held.shared.store.Ages held'.shared.store) :
    Ages host host' :=
  ⟨Nat.le_of_eq hfresh.symm, fun hheld => .inl (hstores _ _ hheld)⟩

theorem Ages.same (hfresh : host'.fresh = host.fresh) (hstores : host'.stores = host.stores) :
    Ages host host' :=
  .of_stores hfresh fun _ held' h => ⟨held', hstores ▸ h, .refl _⟩

theorem Beside.refl (host : Host) : Beside host host := ⟨.same rfl rfl, rfl⟩

/-! ### Parts -/

/-- Work beside the registry that gives the same answer in every state. -/
def Gives (x : HostM α) (r : Except Error α) : Prop :=
  ∀ host, ∃ host', x.run.run host = (r, host') ∧ Beside host host'

theorem gives_lift (r : Except Error α) : Gives (liftM r) r := by
  intro host
  cases r with
  | ok a => exact ⟨host, rfl, .refl host⟩
  | error e => exact ⟨host, rfl, .refl host⟩

theorem gives_modify {f : Host → Host} (hf : ∀ host, Beside host (f host)) :
    Gives (modify f) (.ok ()) :=
  fun host => ⟨f host, rfl, hf host⟩

theorem Gives.bind {x : HostM α} {a : α} {k : α → HostM β} {r : Except Error β}
    (hx : Gives x (.ok a)) (hk : Gives (k a) r) : Gives (x >>= k) r := by
  intro host
  obtain ⟨host', hrun, hbeside⟩ := hx host
  obtain ⟨host'', hrun', hbeside'⟩ := hk host'
  exact ⟨host'', (run_bind_ok hrun k).trans hrun', hbeside.trans hbeside'⟩

theorem Gives.keeps {x : HostM α} {r : Except Error α} (hx : Gives x r) :
    Keeps (Beside host₀) x fun _ => True := by
  intro host hhost
  obtain ⟨host', hrun, hbeside⟩ := hx host
  rw [hrun]
  exact ⟨hhost.trans hbeside, fun _ _ => trivial⟩

theorem gives_report (es : List Event) : Gives (report es) (.ok ()) :=
  gives_modify fun _ => ⟨.same rfl rfl, rfl⟩

theorem keeps_onDisk (x : DiskM α) : Keeps (Beside host₀) (onDisk x) fun _ => True :=
  fun _ hhost => ⟨hhost.trans ⟨.same rfl rfl, rfl⟩, fun _ _ => trivial⟩

theorem keeps_onFiles (x : FilesM α) : Keeps (Beside host₀) (onFiles x) fun _ => True :=
  fun _ hhost => ⟨hhost.trans ⟨.same rfl rfl, rfl⟩, fun _ _ => trivial⟩

theorem gives_record (place : Place) (db : Database) : Gives (record place db) (.ok ()) := by
  refine gives_modify fun host => ⟨.of_stores rfl fun n held' hheld' => ?_, rfl⟩
  rw [Std.ExtTreeMap.getElem?_map] at hheld'
  obtain ⟨held, hheld, rfl⟩ := Option.map_eq_some_iff.1 hheld'
  refine ⟨held, hheld, ?_⟩
  unfold Held.outdate
  split <;> exact .refl _

/-! ### Leaving a database -/

/-- Leaving the files of a database does something to the disk only. -/
theorem run_vacate (place : Place) (host : Host) :
    ∃ disk, (vacate place).run.run host = (.ok (), { host with disk }) := by
  have hrun : (vacate place).run.run host = (.ok (),
      if host.isInUse place then host else { host with disk := host.disk.disconnect place }) := rfl
  rw [hrun]
  split
  · exact ⟨host.disk, rfl⟩
  · exact ⟨_, rfl⟩

theorem gives_vacate (place : Place) : Gives (vacate place) (.ok ()) := by
  intro host
  obtain ⟨disk, hrun⟩ := run_vacate place host
  exact ⟨_, hrun, .same rfl rfl, rfl⟩

theorem run_leave (held : Held) (host : Host) :
    ∃ disk, (leave held).run.run host = (.ok (), { host with disk }) := by
  unfold leave
  split
  · split
    · exact run_vacate _ host
    · exact ⟨host.disk, rfl⟩
  · exact ⟨host.disk, rfl⟩

theorem gives_leave (held : Held) : Gives (leave held) (.ok ()) := by
  intro host
  obtain ⟨disk, hrun⟩ := run_leave held host
  exact ⟨_, hrun, .same rfl rfl, rfl⟩

/-! ### Letting go -/

theorem isHeld_of_handle (hn : host.handles[h]? = some n) : host.isHeld n = true := by
  have hmem : (h, n) ∈ host.handles.toList := Std.ExtTreeMap.mem_toList_iff_getElem?_eq_some.2 hn
  rw [isHeld, Bool.or_eq_true]
  exact .inl (List.any_eq_true.2 ⟨(h, n), hmem, decide_eq_true rfl⟩)

/-- Letting go of a store takes it away or does nothing, and does nothing to what is held. -/
theorem run_release (n : Nat) (host : Host) : ∃ host', (release n).run.run host = (.ok (), host') ∧
    Beside host host' ∧ host'.handles = host.handles ∧
    ∀ m, m ≠ n ∨ host.isHeld m = true → host'.stores[m]? = host.stores[m]? := by
  rw [release, run_get_bind]
  cases hheld : host.isHeld n with
  | true => exact ⟨host, rfl, .refl host, rfl, fun _ _ => rfl⟩
  | false =>
    rw [if_neg Bool.false_ne_true]
    cases hn : host.stores[n]? with
    | none => exact ⟨host, rfl, .refl host, rfl, fun _ _ => rfl⟩
    | some held =>
      have herased : Beside host { host with stores := host.stores.erase n } := by
        refine ⟨.of_stores rfl fun m held' hm => ?_, rfl⟩
        simp only [Std.ExtTreeMap.getElem?_erase, Std.LawfulEqCmp.compare_eq_iff_eq] at hm
        split at hm
        · cases hm
        · exact ⟨held', hm, .refl _⟩
      have hothers (m : Nat) (hm : m ≠ n ∨ host.isHeld m = true) :
          (host.stores.erase n)[m]? = host.stores[m]? := by
        have hne : n ≠ m := by
          rintro rfl
          rcases hm with hm | hm
          · exact hm rfl
          · rw [hheld] at hm
            cases hm
        simp [Std.ExtTreeMap.getElem?_erase, hne]
      dsimp only
      rw [run_set_bind]
      split
      · next s hlive =>
        obtain ⟨disk, hleave⟩ := run_leave held
          { host with stores := host.stores.erase n, events := host.events ++ [.storeClosed s.dir] }
        exact ⟨_, hleave, herased.trans ⟨.same rfl rfl, rfl⟩, rfl, hothers⟩
      · exact ⟨_, rfl, herased, rfl, hothers⟩

theorem gives_release (n : Nat) : Gives (release n) (.ok ()) := by
  intro host
  obtain ⟨host', hrun, hbeside, -⟩ := run_release n host
  exact ⟨host', hrun, hbeside⟩

/-! ### Work on a store -/

theorem gives_settle (n : Nat) (before after : PersistentStore) (place : Place) :
    Gives (settle n before after place) (.ok ()) := by
  have hmarks : Gives (modify fun host => { host with
      stores := host.stores.modify n fun held => { held with
        wroteLast := held.wroteLast || decide (after.generation ≠ before.generation)
        upToDate := held.upToDate || decide (after.reads ≠ before.reads) } }) (.ok ()) := by
    refine gives_modify fun host => ⟨.of_stores rfl fun m held' hheld' => ?_, rfl⟩
    rw [Std.ExtTreeMap.getElem?_modify] at hheld'
    split at hheld'
    · next hm =>
      rw [Std.LawfulEqCmp.compare_eq_iff_eq] at hm
      subst hm
      obtain ⟨held, hheld, rfl⟩ := Option.map_eq_some_iff.1 hheld'
      exact ⟨held, hheld, .refl _⟩
    · exact ⟨held', hheld', .refl _⟩
  unfold settle
  dsimp only
  split
  · exact (gives_record place after.db).bind hmarks
  · exact hmarks

/-- There is nothing to be done with a store that nobody holds. -/
theorem run_onStore_of_none (x : SharedM α) (hn : host.stores[n]? = none) :
    (onStore n x).run.run host = (.error .closed, host) := by
  rw [onStore, run_get_bind, hn]
  rfl

/-- **Work on a store** gives the answer that the store gives, and leads to the store that it leads
to, unless nobody holds the store. -/
theorem run_onStore (x : SharedM α) (hn : host.stores[n]? = some held) :
    ∃ host', (onStore n x).run.run host = ((x.run.run (held.load host.disk).shared).1, host') ∧
      Beside { host with
        stores := host.stores.insert n { held with
          shared := { (x.run.run (held.load host.disk).shared).2 with events := [] } }
        events := host.events ++ (x.run.run (held.load host.disk).shared).2.events } host' := by
  rw [onStore, run_get_bind, hn]
  dsimp only
  rcases x.run.run (held.load host.disk).shared with ⟨r, shared⟩
  have hend : Gives (do release n; liftM r) r := (gives_release n).bind (gives_lift r)
  dsimp only
  rw [run_set_bind]
  split
  · exact (gives_settle _ _ _ _).bind hend _
  · exact (gives_leave _).bind hend _
  · exact hend _

/-- A store that somebody works on ages. -/
theorem ages_insert (hn : host.stores[n]? = some held) {σ : SharedStore}
    (hages : held.shared.store.Ages σ.store) (events : List Event) :
    Beside host { host with
      stores := host.stores.insert n { held with shared := { σ with events := [] } }, events } := by
  refine ⟨.of_stores rfl fun m held' hm => ?_, rfl⟩
  simp only [Std.ExtTreeMap.getElem?_insert, Std.LawfulEqCmp.compare_eq_iff_eq] at hm
  split at hm
  · next hnm =>
    cases hm
    exact ⟨held, hnm ▸ hn, hages⟩
  · exact ⟨held', hm, .refl _⟩

theorem keeps_onStore (n : Nat) {x : SharedM α} (hx : SharedStore.NeverOpens x) :
    Keeps (Beside host₀) (onStore n x) fun _ => True := by
  intro host hhost
  cases hn : host.stores[n]? with
  | none =>
    rw [run_onStore_of_none x hn]
    exact ⟨hhost, fun _ _ => trivial⟩
  | some held =>
    obtain ⟨host', hrun, hbeside⟩ := run_onStore x hn
    rw [hrun]
    have hages := (held.ages_load host.disk).trans (hx (held.load host.disk).shared)
    exact ⟨hhost.trans ((ages_insert hn hages _).trans hbeside), fun _ _ => trivial⟩

theorem keeps_number (h : String) : Keeps (Beside host₀) (number h) fun _ => True := by
  refine keeps_get_bind fun host _ => ?_
  split
  · exact keeps_pure trivial
  · exact keeps_throw _

theorem keeps_onHandle (h : String) {x : SharedM α} (hx : SharedStore.NeverOpens x) :
    Keeps (Beside host₀) (onHandle h x) fun _ => True :=
  (keeps_number h).bind fun n _ => keeps_onStore n hx

theorem keeps_onTxn (x : String) {y : SharedM α} (hy : SharedStore.NeverOpens y) :
    Keeps (Beside host₀) (onTxn x y) fun _ => True := by
  have hholder : Keeps (Beside host₀) (holderOf x) fun _ => True := by
    refine keeps_get_bind fun host _ => ?_
    split
    · exact keeps_pure trivial
    · exact keeps_throw _
  exact hholder.bind fun n _ => keeps_onStore n hy

theorem keeps_begin (h x : String) (type : TxnType) :
    Keeps (Beside host₀) (begin h x type) fun _ => True := by
  refine (keeps_number h).bind fun n _ => keeps_get_bind fun host _ =>
    (keeps_onStore n (SharedStore.neverOpens_start x type)).bind fun begun _ => ?_
  split
  · split
    · exact (keeps_onStore _ (SharedStore.neverOpens_discard x)).bind fun _ _ => keeps_pure trivial
    · exact keeps_pure trivial
  · exact keeps_pure trivial

/-! ### Handles -/

/-- **A handle is let stand for a store.** The store stays as it is, and the one that the handle
stood for is let go of. -/
theorem run_hold (h : String) (n : Nat) (host : Host) :
    ∃ host', (hold h n).run.run host = (.ok (), host') ∧
    Beside host host' ∧ host'.handles[h]? = some n ∧ host'.stores[n]? = host.stores[n]? := by
  have hhandle : (host.handles.insert h n)[h]? = some n := Std.ExtTreeMap.getElem?_insert_self
  have hbegun : Beside host { host with handles := host.handles.insert h n } := ⟨.same rfl rfl, rfl⟩
  rw [hold, run_get_bind, run_set_bind]
  split
  · next before hbefore =>
    obtain ⟨host', hrun, hbeside, hhandles, hstores⟩ :=
      run_release before { host with handles := host.handles.insert h n }
    refine ⟨host', hrun, hbegun.trans hbeside, ?_, ?_⟩
    · rw [hhandles]
      exact hhandle
    · exact hstores n (.inr (isHeld_of_handle hhandle))
  · exact ⟨_, rfl, hbegun, hhandle, rfl⟩

theorem gives_hold (h : String) (n : Nat) : Gives (hold h n) (.ok ()) := by
  intro host
  obtain ⟨host', hrun, hbeside, -⟩ := run_hold h n host
  exact ⟨host', hrun, hbeside⟩

theorem keeps_drop (h : String) : Keeps (Beside host₀) (drop h) fun _ => True := by
  refine keeps_get_bind fun host _ => ?_
  split
  · have herase :
        Gives (modify fun host => { host with handles := host.handles.erase h }) (.ok ()) :=
      gives_modify fun _ => ⟨.same rfl rfl, rfl⟩
    exact (herase.bind (gives_release _)).keeps
  · exact keeps_pure trivial

/-! ### Opening a directory -/

theorem keeps_openFiles (dir : String) : Keeps (Beside host₀) (openFiles dir) fun _ => True :=
  keeps_get_bind fun _ _ => (keeps_lift _).bind fun _ _ => (keeps_onFiles _).bind fun _ _ =>
    keeps_pure trivial

/-- A store that is just opened is open, with the options that it was opened with. -/
theorem keeps_attach (place : Place) (dir : String) (options : StoreOptions) (db : Database) :
    Keeps (Beside host₀) (attach place dir options db) fun held =>
      ∃ s, held.live? = some s ∧ s.options = options := by
  refine keeps_get_bind fun host _ => ?_
  dsimp only
  rcases hattach : (PersistentStore.attach dir (host.disk.access place) options).run.run db with
    ⟨e | s, after⟩
  · have hend : Keeps (Beside host₀) (do vacate place; throw e : HostM Held) fun held =>
        ∃ s, held.live? = some s ∧ s.options = options :=
      (gives_vacate place).keeps.bind fun _ _ => keeps_throw e
    dsimp only
    split
    · exact (gives_record place after).keeps.bind fun _ _ => hend
    · exact hend
  · obtain ⟨table, rfl⟩ := PersistentStore.eq_opened_of_attach hattach
    let s := PersistentStore.opened dir (host.disk.access place) options after table
    have hlive (wroteLast : Bool) : ∃ s',
        Held.live? { shared := { store := .persistent s }, place? := some place, wroteLast }
          = some s' ∧ s'.options = options :=
      ⟨s, Held.live?_eq_some.2 ⟨rfl, rfl⟩, rfl⟩
    dsimp only
    split
    · exact (gives_record place after).keeps.bind fun _ _ => keeps_pure (hlive _)
    · exact keeps_pure (hlive _)

/-- All of the opening of a directory but giving a number to the store. -/
def mount (dir : String) (options : StoreOptions) : HostM Held := do
  onDisk (Disk.makeDirs dir)
  let place ← openFiles dir
  report [.databaseOpened (Disk.databasePath dir)]
  let db ← onFiles (Disk.makeTables place)
  let held ← attach place dir options db
  report [.storeOpened dir options.format options.mode]
  return held

theorem openDirectory_eq (dir : String) (options : StoreOptions) :
    openDirectory dir options = mount dir options >>= enrol := by
  simp only [openDirectory, mount, bind_assoc, pure_bind]

theorem keeps_mount (dir : String) (options : StoreOptions) :
    Keeps (Beside host₀) (mount dir options) fun held =>
      ∃ s, held.live? = some s ∧ s.options = options :=
  (keeps_onDisk _).bind fun _ _ => (keeps_openFiles dir).bind fun place _ =>
    (gives_report _).keeps.bind fun _ _ => (keeps_onFiles _).bind fun db _ =>
      (keeps_attach place dir options db).bind fun _ hheld => (gives_report _).keeps.bind fun _ _ =>
        keeps_pure hheld

theorem keeps_enrol (held : Held) : Keeps (Beside host₀) (enrol held) fun _ => True := by
  intro host hhost
  refine ⟨hhost.trans ⟨⟨Nat.le_succ _, fun {m held'} hm => ?_⟩, rfl⟩, fun _ _ => trivial⟩
  replace hm : (host.stores.insert host.fresh held)[m]? = some held' := hm
  simp only [Std.ExtTreeMap.getElem?_insert, Std.LawfulEqCmp.compare_eq_iff_eq] at hm
  split at hm
  · next hnm => exact .inr ⟨Nat.le_of_eq hnm, hnm ▸ Nat.lt_succ_self _⟩
  · exact .inl ⟨held', hm, .refl _⟩

theorem keeps_openDirectory (dir : String) (options : StoreOptions) :
    Keeps (Beside host₀) (openDirectory dir options) fun _ => True := by
  rw [openDirectory_eq]
  exact (keeps_mount dir options).bind fun held _ => keeps_enrol held

/-- **A directory that was opened** has a new store, which is open and has the options. -/
theorem openDirectory_eq_ok (hrun : (openDirectory dir options).run.run host = (.ok n, host')) :
    host.fresh ≤ n ∧ n < host'.fresh ∧
      ∃ held s, host'.stores[n]? = some held ∧ held.live? = some s ∧ s.options = options := by
  rw [openDirectory_eq] at hrun
  obtain ⟨held, host₁, hmount, henrol⟩ := run_bind_eq_ok hrun
  have hkeeps : Keeps (Beside host) (mount dir options) fun held =>
      ∃ s, held.live? = some s ∧ s.options = options := keeps_mount dir options
  obtain ⟨hbeside, hheld⟩ := hkeeps host (.refl host)
  rw [hmount] at hbeside hheld
  obtain ⟨s, hlive, hoptions⟩ := hheld held rfl
  cases henrol
  exact ⟨hbeside.fresh_le, Nat.lt_succ_self _, held, s, Std.ExtTreeMap.getElem?_insert_self, hlive,
    hoptions⟩

theorem keeps_openPersistent (h dir : String) (options : StoreOptions) :
    Keeps (Beside host₀) (openPersistent h dir options) fun _ => True :=
  (keeps_openDirectory dir options).bind fun _ _ => (gives_hold h _).keeps

end Host

end Clearance
