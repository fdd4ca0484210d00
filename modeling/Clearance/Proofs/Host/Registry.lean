import Clearance.Proofs.Host.Beside

/-!
# What the registry of a host knows

The registry of a host hands out stores for directories. It knows every store that it handed out and
that is open, whatever requests are made to the host: a store that was handed out opens no more once
it is closed, and the registry takes another store for a directory only if the one it knows is not
open, or not held by anybody.

## Main definitions

* `Clearance.Host.HandingOut` — what may become of a request for a store.
* `Clearance.Host.Request`, `Clearance.Host.run` — requests to a host.
* `Clearance.Host.handedOut` — the stores that the registry handed out in a history.
* `Clearance.Host.Registers` — hosts whose registry knows what it handed out.

## Main results

* `Clearance.Host.run_handOut_of_ne`, `Clearance.Host.run_handOut_of_eq`,
  `Clearance.Host.run_handOut_of_error`, `Clearance.Host.run_handOut_of_ok` — opening through the
  registry.
* `Clearance.Host.run_closeRegistered_of_live` — closing through the registry.
* `Clearance.Host.Registers.perform`, `Clearance.Host.registers_run` — requests and histories.
-/

namespace Clearance.Host

variable {host host' host₁ : Host} {n m : Nat} {h x dir : String} {held : Held} {place : Place}
  {options : StoreOptions} {s s' : PersistentStore} {handed : List (Place × Nat)}

/-! ### Open stores -/

/-- The open persistent store with a number. -/
def open? (host : Host) (n : Nat) : Option PersistentStore := host.stores[n]?.bind Held.live?

theorem open?_eq_some : host.open? n = some s ↔
    ∃ held, host.stores[n]? = some held ∧ held.live? = some s := Option.bind_eq_some_iff

theorem live?_eq_some : host.live? place = some (n, s) ↔
    host.registry[place]? = some n ∧ host.open? n = some s := by
  simp only [live?, Option.bind_eq_bind, Option.bind_eq_some_iff, open?_eq_some]
  constructor
  · rintro ⟨m, hm, held, hheld, s', hs', heq⟩
    cases heq
    exact ⟨hm, held, hheld, hs'⟩
  · rintro ⟨hn, held, hheld, hs⟩
    exact ⟨n, hn, held, hheld, s, hs, rfl⟩

/-- A store that is open was open before, with the same options, if it is not new. -/
theorem Ages.exists_open (hages : Ages host host') (hn : n < host.fresh)
    (hs : host'.open? n = some s') : ∃ s, host.open? n = some s ∧ s'.options = s.options := by
  obtain ⟨held', hheld', hlive⟩ := open?_eq_some.1 hs
  obtain ⟨hstore', hopen'⟩ := Held.live?_eq_some.1 hlive
  rcases hages.store hheld' with ⟨held, hheld, hstore⟩ | ⟨hnew, -⟩
  · rw [hstore'] at hstore
    generalize hS : held.shared.store = S at hstore
    cases hstore with
    | @persistent s _ hoptions hclosed =>
      have hopen : s.closed = false := by
        rw [Bool.eq_false_iff]
        intro hshut
        rw [hclosed hshut] at hopen'
        cases hopen'
      exact ⟨s, open?_eq_some.2 ⟨held, hheld, Held.live?_eq_some.2 ⟨hS, hopen⟩⟩, hoptions⟩
    | transient _ hnone => cases hnone
  · exact absurd hn (Nat.not_lt.2 hnew)

theorem Ages.open?_eq_none (hages : Ages host host') (hn : n < host.fresh)
    (hnone : host.open? n = none) : host'.open? n = none := by
  cases hs' : host'.open? n with
  | none => rfl
  | some s' =>
    obtain ⟨s, hs, -⟩ := hages.exists_open hn hs'
    rw [hnone] at hs
    cases hs

/-! ### Opening through the registry -/

/-- The place of a directory, which is made if it is missing. -/
def placed (dir : String) : HostM Place := do
  onDisk (Disk.makeDirs dir)
  ofDisk ((← get).disk.canonical dir)

/-- Hands out a store for a place. -/
def handOut (h : String) (place : Place) (options : StoreOptions) : HostM Unit := do
  match (← get).live? place with
  | some (n, s) =>
    if s.options ≠ options then throw (.invalid (.alreadyOpen place.path s.options options))
    report [.storeReused place.path]
    hold h n
  | none =>
    let n ← openDirectory place.path options
    modify fun host => { host with registry := host.registry.insert place n }
    hold h n

theorem openRegistered_eq (h dir : String) (options : StoreOptions) :
    openRegistered h dir options = placed dir >>= fun place => handOut h place options := by
  rw [placed]
  simp only [bind_assoc]
  rfl

theorem run_onDisk {α : Type} (x : DiskM α) (host : Host) : (onDisk x).run.run host
    = ((x.run.run host.disk).1.mapError Error.io, { host with disk := (x.run.run host.disk).2 }) :=
  rfl

/-- Making a directory and finding it does something to the disk only. -/
theorem run_placed (dir : String) (host : Host) : ∃ r, (placed dir).run.run host
    = (r, { host with disk := ((Disk.makeDirs dir).run.run host.disk).2 }) := by
  have hmake := run_onDisk (Disk.makeDirs dir) host
  cases hmade : ((Disk.makeDirs dir).run.run host.disk).1.mapError Error.io with
  | error e =>
    rw [hmade] at hmake
    exact ⟨_, run_bind_error hmake _⟩
  | ok u =>
    rw [hmade] at hmake
    rw [placed, run_bind_ok hmake, run_get_bind, ofDisk]
    rcases (Disk.canonical _ dir).mapError Error.io with e | place
    · exact ⟨_, rfl⟩
    · exact ⟨_, rfl⟩

theorem eq_of_placed {r : Except Error Place} (hplaced : (placed dir).run.run host = (r, host₁)) :
    host₁ = { host with disk := ((Disk.makeDirs dir).run.run host.disk).2 } := by
  obtain ⟨r', hrun⟩ := run_placed dir host
  rw [hplaced] at hrun
  exact congrArg Prod.snd hrun

theorem run_openRegistered (hplaced : (placed dir).run.run host = (.ok place, host₁)) (h : String)
    (options : StoreOptions) : (openRegistered h dir options).run.run host
      = (handOut h place options).run.run host₁ := by
  rw [openRegistered_eq, run_bind_ok hplaced]

theorem run_openRegistered_of_unplaced {e : Error}
    (hplaced : (placed dir).run.run host = (.error e, host₁)) :
    (openRegistered h dir options).run.run host = (.error e, host₁) := by
  rw [openRegistered_eq, run_bind_error hplaced]

theorem beside_of_openDirectory {r : Except Error Nat}
    (hopen : (openDirectory dir options).run.run host = (r, host₁)) : Beside host host₁ := by
  have hkeeps : Keeps (Beside host) (openDirectory dir options) fun _ => True :=
    keeps_openDirectory dir options
  have hkept := (hkeeps host (.refl host)).1
  rwa [hopen] at hkept

/-- The request is refused if there is an open store with other options. -/
theorem run_handOut_of_ne (hlive : host.live? place = some (n, s)) (hoptions : s.options ≠ options)
    (h : String) : (handOut h place options).run.run host
      = (.error (.invalid (.alreadyOpen place.path s.options options)), host) := by
  rw [handOut, run_get_bind, hlive]
  dsimp only
  rw [if_pos hoptions]
  rfl

/-- An open store with the same options is handed out. -/
theorem run_handOut_of_eq (hlive : host.live? place = some (n, s)) (hoptions : s.options = options)
    (h : String) : ∃ host', (handOut h place options).run.run host = (.ok (), host') ∧
      Beside host host' ∧ host'.handles[h]? = some n ∧ host'.stores[n]? = host.stores[n]? := by
  obtain ⟨host', hrun, hbeside, hhandle, hstore⟩ :=
    run_hold h n { host with events := host.events ++ [.storeReused place.path] }
  have hreported : Beside host { host with events := host.events ++ [.storeReused place.path] } :=
    ⟨.same rfl rfl, rfl⟩
  refine ⟨host', ?_, hreported.trans hbeside, hhandle, hstore⟩
  rw [handOut, run_get_bind, hlive]
  dsimp only
  rw [if_neg (not_not_intro hoptions)]
  exact hrun

/-- The request fails if there is no open store and the directory cannot be opened. -/
theorem run_handOut_of_error {e : Error} (hnone : host.live? place = none)
    (hopen : (openDirectory place.path options).run.run host = (.error e, host')) (h : String) :
    (handOut h place options).run.run host = (.error e, host') := by
  rw [handOut, run_get_bind, hnone]
  dsimp only
  rw [run_bind_error hopen]

/-- The store of a directory that is opened is handed out. -/
theorem run_handOut_of_ok (hnone : host.live? place = none)
    (hopen : (openDirectory place.path options).run.run host = (.ok n, host₁)) (h : String) :
    ∃ host', (handOut h place options).run.run host = (.ok (), host') ∧
      Beside { host₁ with registry := host₁.registry.insert place n } host' ∧
      host'.handles[h]? = some n ∧ host'.stores[n]? = host₁.stores[n]? := by
  obtain ⟨host', hrun, hbeside, hhandle, hstore⟩ :=
    run_hold h n { host₁ with registry := host₁.registry.insert place n }
  refine ⟨host', ?_, hbeside, hhandle, hstore⟩
  rw [handOut, run_get_bind, hnone]
  dsimp only
  rw [run_bind_ok hopen, run_modify_bind]
  exact hrun

/-- What may become of a host when a store is asked for, with the answer. -/
inductive HandingOut (h : String) (place : Place) (options : StoreOptions) (host : Host) :
    Except Error Unit → Host → Prop where
  /-- The request is refused, or fails. -/
  | failed {e : Error} {host' : Host} (hbeside : Beside host host') :
    HandingOut h place options host (.error e) host'
  /-- The open store of the directory is handed out. -/
  | shared {n : Nat} {s : PersistentStore} {host' : Host} (hlive : host.live? place = some (n, s))
    (hbeside : Beside host host') (hhandle : host'.handles[h]? = some n) :
    HandingOut h place options host (.ok ()) host'
  /-- The directory is opened. -/
  | opened {n : Nat} {host₁ host' : Host} (hnone : host.live? place = none)
    (hopen : (openDirectory place.path options).run.run host = (.ok n, host₁))
    (hbeside : Beside { host₁ with registry := host₁.registry.insert place n } host')
    (hhandle : host'.handles[h]? = some n) :
    HandingOut h place options host (.ok ()) host'

theorem handOut_spec (h : String) (place : Place) (options : StoreOptions) (host : Host) :
    HandingOut h place options host ((handOut h place options).run.run host).1
      ((handOut h place options).run.run host).2 := by
  cases hlive : host.live? place with
  | some live =>
    obtain ⟨n, s⟩ := live
    by_cases hoptions : s.options = options
    · obtain ⟨host', hrun, hbeside, hhandle, -⟩ := run_handOut_of_eq hlive hoptions h
      rw [hrun]
      exact .shared hlive hbeside hhandle
    · rw [run_handOut_of_ne hlive hoptions]
      exact .failed (.refl host)
  | none =>
    rcases hopen : (openDirectory place.path options).run.run host with ⟨e | n, host₁⟩
    · rw [run_handOut_of_error hlive hopen]
      exact .failed (beside_of_openDirectory hopen)
    · obtain ⟨host', hrun, hbeside, hhandle, -⟩ := run_handOut_of_ok hlive hopen h
      rw [hrun]
      exact .opened hlive hopen hbeside hhandle

/-! ### Closing through the registry -/

theorem run_closeRegistered (hplace : host.disk.canonical dir = .ok place) :
    (closeRegistered dir).run.run host = (match host.live? place with
        | some (n, _) => onStore n SharedStore.close
        | none => return false : HostM Bool).run.run
      { host with registry := host.registry.erase place } := by
  rw [closeRegistered, run_get_bind, ofDisk, hplace]
  rfl

theorem beside_closeRegistered (hplace : host.disk.canonical dir = .ok place) :
    Beside { host with registry := host.registry.erase place }
      ((closeRegistered dir).run.run host).2 := by
  have hclose : Keeps (Beside { host with registry := host.registry.erase place })
      (match host.live? place with
        | some (n, _) => onStore n SharedStore.close
        | none => return false : HostM Bool) fun _ => True := by
    split
    · exact keeps_onStore _ SharedStore.neverOpens_close
    · exact keeps_pure trivial
  rw [run_closeRegistered hplace]
  exact (hclose _ (.refl _)).1

theorem ages_closeRegistered (dir : String) (host : Host) :
    Ages host ((closeRegistered dir).run.run host).2 := by
  cases hplace : host.disk.canonical dir with
  | error e =>
    rw [closeRegistered, run_get_bind, ofDisk, hplace]
    exact (Beside.refl host).toAges
  | ok place =>
    have herased : Ages host { host with registry := host.registry.erase place } := .same rfl rfl
    exact herased.trans (beside_closeRegistered hplace).toAges

/-- A directory that has no open store is only forgotten. -/
theorem run_closeRegistered_of_none (hplace : host.disk.canonical dir = .ok place)
    (hnone : host.live? place = none) : (closeRegistered dir).run.run host
      = (.ok false, { host with registry := host.registry.erase place }) := by
  rw [run_closeRegistered hplace, hnone]
  rfl

/-- The open store of a directory is closed. -/
theorem run_closeRegistered_of_live (hplace : host.disk.canonical dir = .ok place)
    (hlive : host.live? place = some (n, s)) (hn : n < host.fresh) :
    ∃ host', (closeRegistered dir).run.run host = (.ok true, host') ∧ host'.open? n = none := by
  obtain ⟨-, hs⟩ := live?_eq_some.1 hlive
  obtain ⟨held, hheld, hopen⟩ := open?_eq_some.1 hs
  obtain ⟨s', hstore, hopen'⟩ := Held.exists_load hopen host.disk
  have hclose := SharedStore.run_close hstore
  rw [hopen'] at hclose
  have hheld' :
      ({ host with registry := host.registry.erase place } : Host).stores[n]? = some held :=
    hheld
  obtain ⟨host', hrun, hbeside⟩ := run_onStore SharedStore.close hheld'
  rw [hclose] at hrun hbeside
  refine ⟨host', ?_, hbeside.toAges.open?_eq_none hn ?_⟩
  · rw [run_closeRegistered hplace, hlive]
    exact hrun
  · rw [open?, Std.ExtTreeMap.getElem?_insert_self]
    rfl

/-! ### Requests -/

/-- A request to a host. -/
inductive Request where
  /-- A directory is opened through the registry. -/
  | openRegistered (h dir : String) (options : StoreOptions)
  /-- A directory is closed through the registry. -/
  | closeRegistered (dir : String)
  /-- The directories whose stores are held are counted. -/
  | count
  /-- A directory is opened beside the registry. -/
  | openPersistent (h dir : String) (options : StoreOptions)
  /-- A store is worked on, be it that it is closed. It is not opened again. -/
  | work (h : String) (op : SharedStore.Op) (hop : op ≠ .reopen)
  /-- A transaction begins. -/
  | begin (h x : String) (type : TxnType)
  /-- A transaction is worked on. -/
  | inTxn (x : String) (op : SharedStore.Op) (hop : op ≠ .reopen)
  /-- A handle is forgotten. -/
  | drop (h : String)

/-- Whether a request is made to the registry. -/
def Request.isToRegistry : Request → Bool
  | .openRegistered .. | .closeRegistered _ => true
  | _ => false

/-- The work that a request asks for. -/
def Request.perform : Request → HostM Unit
  | .openRegistered h dir options => Host.openRegistered h dir options
  | .closeRegistered dir => (fun _ => ()) <$> Host.closeRegistered dir
  | .count => (fun _ => ()) <$> (registered <$> get : HostM Nat)
  | .openPersistent h dir options => Host.openPersistent h dir options
  | .work h op _ => (fun _ => ()) <$> onHandle h op.perform
  | .begin h x type => (fun _ => ()) <$> Host.begin h x type
  | .inTxn x op _ => (fun _ => ()) <$> onTxn x op.perform
  | .drop h => Host.drop h

/-- A host after requests that are made one after the other. -/
def run : List Request → Host → Host
  | [], host => host
  | r :: rs, host => run rs (r.perform.run.run host).2

/-- The store that the registry hands out at a request, with the place of its directory. -/
def Request.handsOut (r : Request) (host : Host) : List (Place × Nat) :=
  match r with
  | .openRegistered h dir options =>
    match ((placed dir).run.run host).1, (Host.openRegistered h dir options).run.run host with
    | .ok place, (.ok _, host') => host'.handles[h]?.toList.map fun n => (place, n)
    | _, _ => []
  | _ => []

/-- The stores that the registry hands out in a history, with the places of their directories. -/
def handedOut : List Request → Host → List (Place × Nat)
  | [], _ => []
  | r :: rs, host => r.handsOut host ++ handedOut rs (r.perform.run.run host).2

/-! ### What the registry knows -/

/-- Whether the registry of a host knows the stores that it has handed out, as far as they are
open. -/
structure Registers (host : Host) (handed : List (Place × Nat)) : Prop where
  /-- Their numbers are not given again. -/
  numbered {place : Place} {n : Nat} (h : (place, n) ∈ handed) : n < host.fresh
  /-- The registry has no others. -/
  listed {place : Place} {n : Nat} (h : host.registry[place]? = some n) : (place, n) ∈ handed
  /-- It has those that are open. -/
  current {place : Place} {n : Nat} {s : PersistentStore} (h : (place, n) ∈ handed)
    (hs : host.open? n = some s) : host.registry[place]? = some n
  /-- They are persistent. -/
  persistent {place : Place} {n : Nat} {held : Held} (h : (place, n) ∈ handed)
    (hheld : host.stores[n]? = some held) : ∃ s, held.shared.store = .persistent s

theorem registers_new (d : Disk) : Registers { disk := d } [] where
  numbered h := nomatch h
  listed h := by simp at h
  current h := nomatch h
  persistent h := nomatch h

theorem Ages.exists_persistent (hages : Ages host host') (hn : n < host.fresh)
    (hpersistent : ∀ held, host.stores[n]? = some held → ∃ s, held.shared.store = .persistent s)
    {held' : Held} (hheld' : host'.stores[n]? = some held') :
    ∃ s, held'.shared.store = .persistent s := by
  rcases hages.store hheld' with ⟨held, hheld, hstore⟩ | ⟨hnew, -⟩
  · obtain ⟨s, hs⟩ := hpersistent held hheld
    rw [hs] at hstore
    cases hS : held'.shared.store with
    | persistent s' => exact ⟨s', rfl⟩
    | _ =>
      rw [hS] at hstore
      cases hstore with
      | transient hnone _ => cases hnone
  · exact absurd hn (Nat.not_lt.2 hnew)

namespace Registers

variable (hregisters : Registers host handed)

include hregisters

theorem beside (hbeside : Beside host host') : Registers host' handed where
  numbered h := Nat.lt_of_lt_of_le (hregisters.numbered h) hbeside.fresh_le
  listed h := by
    rw [hbeside.registry_eq] at h
    exact hregisters.listed h
  current h hs := by
    obtain ⟨s, hs, -⟩ := hbeside.toAges.exists_open (hregisters.numbered h) hs
    rw [hbeside.registry_eq]
    exact hregisters.current h hs
  persistent h := hbeside.toAges.exists_persistent (hregisters.numbered h)
    fun _ => hregisters.persistent h

/-- Two open stores of one directory are one. -/
theorem unique (hn : (place, n) ∈ handed) (hm : (place, m) ∈ handed) (hs : host.open? n = some s)
    (hs' : host.open? m = some s') : n = m := by
  have hregistry := hregisters.current hn hs
  rw [hregisters.current hm hs'] at hregistry
  exact (Option.some.inj hregistry).symm

/-- The registry finds the open store of a directory. -/
theorem live?_iff : host.live? place = some (n, s) ↔
    (place, n) ∈ handed ∧ host.open? n = some s := by
  rw [live?_eq_some]
  exact ⟨fun h => ⟨hregisters.listed h.1, h.2⟩, fun h => ⟨hregisters.current h.1 h.2, h.2⟩⟩

/-- A store is handed out once more. -/
theorem again (hmem : (place, n) ∈ handed) : Registers host (handed ++ [(place, n)]) := by
  have hsame {p : Place} {m : Nat} (h : (p, m) ∈ handed ++ [(place, n)]) : (p, m) ∈ handed := by
    rcases List.mem_append.1 h with h | h
    · exact h
    · cases List.mem_singleton.1 h
      exact hmem
  exact {
    numbered := fun h => hregisters.numbered (hsame h)
    listed := fun h => List.mem_append_left _ (hregisters.listed h)
    current := fun h => hregisters.current (hsame h)
    persistent := fun h => hregisters.persistent (hsame h) }

/-- A store is handed out that is new. -/
theorem opened (hnone : host.live? place = none)
    (hopen : (openDirectory place.path options).run.run host = (.ok n, host₁)) :
    Registers { host₁ with registry := host₁.registry.insert place n }
      (handed ++ [(place, n)]) := by
  have hbeside := beside_of_openDirectory hopen
  obtain ⟨-, hlt, held, s, hheld, hlive, -⟩ := openDirectory_eq_ok hopen
  have hold := hregisters.beside hbeside
  refine ⟨fun {p m} h => ?_, fun {p m} h => ?_, fun {p m s} h hs => ?_,
    fun {p m held'} h hheld' => ?_⟩
  · rcases List.mem_append.1 h with h | h
    · exact hold.numbered h
    · cases List.mem_singleton.1 h
      exact hlt
  · simp only [Std.ExtTreeMap.getElem?_insert, Std.LawfulEqCmp.compare_eq_iff_eq] at h
    split at h
    · next hp =>
      cases h
      exact List.mem_append_right _ (List.mem_singleton.2 (by rw [hp]))
    · exact List.mem_append_left _ (hold.listed h)
  · simp only [Std.ExtTreeMap.getElem?_insert, Std.LawfulEqCmp.compare_eq_iff_eq]
    rcases List.mem_append.1 h with h | h
    · -- Another store of the directory would have been open before.
      have hne : place ≠ p := by
        rintro rfl
        obtain ⟨s', hs', -⟩ := hbeside.toAges.exists_open (hregisters.numbered h) hs
        rw [hregisters.live?_iff.2 ⟨h, hs'⟩] at hnone
        cases hnone
      rw [if_neg hne]
      exact hold.current h hs
    · cases List.mem_singleton.1 h
      rw [if_pos rfl]
  · rcases List.mem_append.1 h with h | h
    · exact hold.persistent h hheld'
    · cases List.mem_singleton.1 h
      rw [show host₁.stores[n]? = some held' from hheld'] at hheld
      cases hheld
      exact ⟨_, (Held.live?_eq_some.1 hlive).1⟩

/-- A request for a store. -/
theorem handingOut {r : Except Error Unit} (hspec : HandingOut h place options host r host') :
    (∀ e, r = .error e → Registers host' handed) ∧
      (r = .ok () → ∃ n, host'.handles[h]? = some n ∧
        Registers host' (handed ++ [(place, n)])) := by
  cases hspec with
  | failed hbeside => exact ⟨fun _ _ => hregisters.beside hbeside, nofun⟩
  | shared hlive hbeside hhandle =>
    obtain ⟨hmem, -⟩ := hregisters.live?_iff.1 hlive
    exact ⟨fun _ h => (nomatch h), fun _ => ⟨_, hhandle, (hregisters.beside hbeside).again hmem⟩⟩
  | opened hnone hopen hbeside hhandle =>
    exact ⟨fun _ h => (nomatch h),
      fun _ => ⟨_, hhandle, (hregisters.opened hnone hopen).beside hbeside⟩⟩

/-- No store that was handed out for a directory is open when the directory has been closed. -/
theorem open?_closeRegistered (hplace : host.disk.canonical dir = .ok place)
    (hmem : (place, n) ∈ handed) : ((Host.closeRegistered dir).run.run host).2.open? n = none := by
  have hnumbered := hregisters.numbered hmem
  cases hs : host.open? n with
  | none => exact (ages_closeRegistered dir host).open?_eq_none hnumbered hs
  | some s =>
    have hlive := hregisters.live?_iff.2 ⟨hmem, hs⟩
    obtain ⟨host', hrun, hshut⟩ := run_closeRegistered_of_live hplace hlive hnumbered
    rw [hrun]
    exact hshut

/-- A directory is closed. -/
theorem closeRegistered (dir : String) :
    Registers ((Host.closeRegistered dir).run.run host).2 handed := by
  cases hplace : host.disk.canonical dir with
  | error e =>
    rw [Host.closeRegistered, run_get_bind, ofDisk, hplace]
    exact hregisters
  | ok place =>
    have hages := ages_closeRegistered dir host
    have hregistry (p : Place) : ((Host.closeRegistered dir).run.run host).2.registry[p]?
        = if place = p then none else host.registry[p]? := by
      rw [(beside_closeRegistered hplace).registry_eq]
      simp only [Std.ExtTreeMap.getElem?_erase, Std.LawfulEqCmp.compare_eq_iff_eq]
    refine ⟨fun {p m} h => ?_, fun {p m} h => ?_, fun {p m s} h hs => ?_,
      fun {p m held} h hheld => ?_⟩
    · exact Nat.lt_of_lt_of_le (hregisters.numbered h) hages.fresh_le
    · rw [hregistry] at h
      split at h
      · cases h
      · exact hregisters.listed h
    · -- What is open was not handed out for the directory that was closed.
      have hne : place ≠ p := by
        rintro rfl
        rw [hregisters.open?_closeRegistered hplace h] at hs
        cases hs
      obtain ⟨s', hs', -⟩ := hages.exists_open (hregisters.numbered h) hs
      rw [hregistry, if_neg hne]
      exact hregisters.current h hs'
    · exact hages.exists_persistent (hregisters.numbered h) (fun _ => hregisters.persistent h) hheld

end Registers

/-- Requests beside the registry. -/
theorem keeps_request {r : Request} (hr : r.isToRegistry = false) :
    Keeps (Beside host₀) r.perform fun _ => True := by
  cases r with
  | openRegistered h dir options => cases hr
  | closeRegistered dir => cases hr
  | count => exact (Keeps.map (keeps_get_bind fun _ _ => keeps_pure trivial) _).map _
  | openPersistent h dir options => exact keeps_openPersistent h dir options
  | work h op hop => exact (keeps_onHandle h (SharedStore.neverOpens_perform hop)).map _
  | begin h x type => exact (keeps_begin h x type).map _
  | inTxn x op hop => exact (keeps_onTxn x (SharedStore.neverOpens_perform hop)).map _
  | drop h => exact keeps_drop h

theorem beside_perform {r : Request} (hr : r.isToRegistry = false) (host : Host) :
    Beside host (r.perform.run.run host).2 :=
  (keeps_request hr host (.refl host)).1

/-- **A request:** the registry knows what it has handed out. -/
theorem Registers.perform (hregisters : Registers host handed) (r : Request) :
    Registers (r.perform.run.run host).2 (handed ++ r.handsOut host) := by
  have hbeside (h : Beside host (r.perform.run.run host).2) (hnone : r.handsOut host = []) :
      Registers (r.perform.run.run host).2 (handed ++ r.handsOut host) := by
    rw [hnone, List.append_nil]
    exact hregisters.beside h
  cases r with
  | openRegistered h dir options =>
    obtain ⟨r, hplaced⟩ := run_placed dir host
    have hfound :
        Registers { host with disk := ((Disk.makeDirs dir).run.run host.disk).2 } handed :=
      hregisters.beside ⟨.same rfl rfl, rfl⟩
    rw [Request.perform]
    cases r with
    | error e =>
      rw [Request.handsOut, hplaced, run_openRegistered_of_unplaced hplaced, List.append_nil]
      exact hfound
    | ok place =>
      obtain ⟨hfailed, hdone⟩ := hfound.handingOut (handOut_spec h place options _)
      have hrun := run_openRegistered hplaced h options
      rcases hhandOut : (handOut h place options).run.run
          { host with disk := ((Disk.makeDirs dir).run.run host.disk).2 } with ⟨e | ⟨⟩, host'⟩
      · rw [hhandOut] at hrun hfailed
        rw [Request.handsOut, hplaced, hrun, List.append_nil]
        exact hfailed e rfl
      · rw [hhandOut] at hrun hdone
        obtain ⟨n, hhandle, hhanded⟩ := hdone rfl
        rw [Request.handsOut, hplaced, hrun]
        dsimp only
        rw [hhandle]
        exact hhanded
  | closeRegistered dir =>
    have hclosed := hregisters.closeRegistered dir
    rw [Request.perform, run_map]
    exact (List.append_nil handed).symm ▸ hclosed
  | _ => exact hbeside (beside_perform rfl host) rfl

theorem registers_run : ∀ {rs : List Request} {host : Host} {handed : List (Place × Nat)},
    Registers host handed → Registers (run rs host) (handed ++ handedOut rs host)
  | [], host, handed, h => by
    rw [handedOut, List.append_nil]
    exact h
  | r :: rs, host, handed, h => by
    rw [run, handedOut, ← List.append_assoc]
    exact registers_run (h.perform r)

/-! ### Stores age -/

theorem HandingOut.ages {r : Except Error Unit} (hspec : HandingOut h place options host r host') :
    Ages host host' := by
  cases hspec with
  | failed hbeside => exact hbeside.toAges
  | shared _ hbeside _ => exact hbeside.toAges
  | @opened n host₁ _ _ hopen hbeside _ =>
    have hregistered : Ages host₁ { host₁ with registry := host₁.registry.insert place n } :=
      .same rfl rfl
    exact (beside_of_openDirectory hopen).toAges.trans (hregistered.trans hbeside.toAges)

/-- **A request** lets the stores of a host age. -/
theorem ages_perform (r : Request) (host : Host) : Ages host (r.perform.run.run host).2 := by
  cases r with
  | openRegistered h dir options =>
    obtain ⟨r, hplaced⟩ := run_placed dir host
    have hfound : Ages host { host with disk := ((Disk.makeDirs dir).run.run host.disk).2 } :=
      .same rfl rfl
    rw [Request.perform]
    cases r with
    | error e =>
      rw [run_openRegistered_of_unplaced hplaced]
      exact hfound
    | ok place =>
      rw [run_openRegistered hplaced]
      exact hfound.trans (handOut_spec h place options _).ages
  | closeRegistered dir =>
    rw [Request.perform, run_map]
    exact ages_closeRegistered dir host
  | _ => exact Beside.toAges (beside_perform rfl host)

theorem ages_run : ∀ (rs : List Request) (host : Host), Ages host (run rs host)
  | [], host => (Beside.refl host).toAges
  | r :: rs, host => (ages_perform r host).trans (ages_run rs _)

end Clearance.Host
