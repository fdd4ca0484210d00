import Clearance.Proofs.Disk.Directories
import Clearance.Proofs.Host.Registry

/-!
# One live store for each directory

Of all the stores that the registry of a host ever handed out for a directory, one at most is open
at any time, whoever closes them, lets go of them or opens others. So a directory is opened anew
only if there is no such store; otherwise the one that there is is handed out again, or the request
is refused if its options are others. A directory that has been closed leaves no open store behind.

To open a directory makes the directories of its path that are missing, also if the request is
refused.

## Main definitions

* `Clearance.Host.Opens`, `Clearance.Host.Closes` — what opening and closing through the registry
  come to.

## Main results

* `Clearance.Host.Registers.opens`, `Clearance.Host.Registers.closes`
* `Clearance.Host.one_live_store_per_directory`
* `Clearance.Host.refusal_makes_directories` — what a refused request leaves behind.
-/

namespace Clearance.Host

variable {host : Host} {n : Nat} {h dir : String} {place : Place} {options : StoreOptions}
  {handed : List (Place × Nat)}

/-! ### Opening -/

/-- What it is to open a directory through the registry of a host, given the stores that the
registry has handed out. -/
structure Opens (host : Host) (handed : List (Place × Nat)) (h dir : String)
    (options : StoreOptions) : Prop where
  /-- Nothing is done to find a directory but that it is made if it is missing. -/
  found {r : Except Error Place} {host₁ : Host} (hplaced : (placed dir).run.run host = (r, host₁)) :
    host₁ = { host with disk := host₁.disk } ∧ host.disk.Extends host₁.disk ∧
      (host.disk.isDirectory (Disk.names dir) = true → host₁ = host)
  /-- A directory that cannot be made, or found, is not opened. -/
  unplaced {e : Error} {host₁ : Host} (hplaced : (placed dir).run.run host = (.error e, host₁)) :
    (openRegistered h dir options).run.run host = (.error e, host₁)
  /-- An open store of the directory with the same options is handed out. -/
  shared {place : Place} {host₁ : Host} {n : Nat} {s : PersistentStore}
    (hplaced : (placed dir).run.run host = (.ok place, host₁)) (hmem : (place, n) ∈ handed)
    (hs : host.open? n = some s) (hoptions : s.options = options) :
    ∃ host', (openRegistered h dir options).run.run host = (.ok (), host') ∧
      host'.handles[h]? = some n ∧ host'.open? n = some s
  /-- The request is refused if there is an open store of the directory with other options. -/
  refused {place : Place} {host₁ : Host} {n : Nat} {s : PersistentStore}
    (hplaced : (placed dir).run.run host = (.ok place, host₁)) (hmem : (place, n) ∈ handed)
    (hs : host.open? n = some s) (hoptions : s.options ≠ options) :
    (openRegistered h dir options).run.run host
      = (.error (.invalid (.alreadyOpen place.path s.options options)), host₁)
  /-- If there is no open store of the directory, it is opened anew, unless it cannot be opened. -/
  opened {place : Place} {host₁ : Host} (hplaced : (placed dir).run.run host = (.ok place, host₁))
    (hnone : ∀ n, (place, n) ∈ handed → host.open? n = none) :
    (∃ e host', (openDirectory place.path options).run.run host₁ = (.error e, host') ∧
        (openRegistered h dir options).run.run host = (.error e, host')) ∨
      ∃ n host₂ host' s, (openDirectory place.path options).run.run host₁ = (.ok n, host₂) ∧
        (openRegistered h dir options).run.run host = (.ok (), host') ∧
        host'.handles[h]? = some n ∧ host'.open? n = some s ∧ s.options = options ∧
        ∀ p, (p, n) ∉ handed

/-- Where a directory has been found, the registry finds its open store. -/
theorem Registers.live?_of_placed (hregisters : Registers host handed) {r : Except Error Place}
    {host₁ : Host} (hplaced : (placed dir).run.run host = (r, host₁)) {s : PersistentStore} :
    host₁.live? place = some (n, s) ↔ (place, n) ∈ handed ∧ host.open? n = some s := by
  obtain rfl := eq_of_placed hplaced
  exact hregisters.live?_iff

theorem Registers.opens (hregisters : Registers host handed) (h dir : String)
    (options : StoreOptions) : Opens host handed h dir options where
  found {r host₁} hplaced := by
    obtain rfl := eq_of_placed hplaced
    refine ⟨rfl, Disk.extends_makeDirs dir host.disk, fun hdir => ?_⟩
    rw [Disk.run_makeDirs_of_isDirectory hdir]
  unplaced := run_openRegistered_of_unplaced
  shared {place host₁ n s} hplaced hmem hs hoptions := by
    have hlive := (hregisters.live?_of_placed hplaced).2 ⟨hmem, hs⟩
    obtain ⟨host', hrun, -, hhandle, hstore⟩ := run_handOut_of_eq hlive hoptions h
    refine ⟨host', ?_, hhandle, ?_⟩
    · rw [run_openRegistered hplaced, hrun]
    · rw [open?, hstore]
      exact (live?_eq_some.1 hlive).2
  refused {place host₁ n s} hplaced hmem hs hoptions := by
    rw [run_openRegistered hplaced]
    exact run_handOut_of_ne ((hregisters.live?_of_placed hplaced).2 ⟨hmem, hs⟩) hoptions h
  opened {place host₁} hplaced hnone := by
    have hunlisted : host₁.live? place = none := by
      cases hlive : host₁.live? place with
      | none => rfl
      | some live =>
        obtain ⟨hmem, hs⟩ := (hregisters.live?_of_placed hplaced).1 hlive
        rw [hnone _ hmem] at hs
        cases hs
    rw [run_openRegistered hplaced]
    rcases hopen : (openDirectory place.path options).run.run host₁ with ⟨e | n, host₂⟩
    · exact .inl ⟨e, host₂, rfl, run_handOut_of_error hunlisted hopen h⟩
    · obtain ⟨hnew, -, held, s, hheld, hs, hoptions⟩ := openDirectory_eq_ok hopen
      obtain ⟨host', hrun, -, hhandle, hstore⟩ := run_handOut_of_ok hunlisted hopen h
      refine .inr ⟨n, host₂, host', s, rfl, hrun, hhandle, ?_, hoptions, fun p hmem => ?_⟩
      · exact open?_eq_some.2 ⟨held, hstore.trans hheld, hs⟩
      · obtain rfl := eq_of_placed hplaced
        exact absurd (hregisters.numbered hmem) (Nat.not_lt.2 hnew)

/-! ### Closing -/

/-- What it is to close a directory through the registry of a host, given the stores that the
registry has handed out. -/
structure Closes (host : Host) (handed : List (Place × Nat)) (dir : String) : Prop where
  /-- A directory that cannot be found is not closed. -/
  unplaced {e : IoFault} (hplace : host.disk.canonical dir = .error e) :
    (closeRegistered dir).run.run host = (.error (.io e), host)
  /-- The answer is whether there was an open store. -/
  answers {place : Place} (hplace : host.disk.canonical dir = .ok place) :
    ∃ wasOpen host', (closeRegistered dir).run.run host = (.ok wasOpen, host') ∧
      (wasOpen = true ↔ ∃ n, (place, n) ∈ handed ∧ (host.open? n).isSome = true)
  /-- From then on, every handle to a store that was handed out for the directory fails lookups. -/
  shut {place : Place} {n : Nat} (hplace : host.disk.canonical dir = .ok place)
    (hmem : (place, n) ∈ handed) (later : List Request) {h : String}
    (hhandle : (run later ((closeRegistered dir).run.run host).2).handles[h]? = some n)
    (t : Triple) : ((onHandle h (SharedStore.lookup t)).run.run
      (run later ((closeRegistered dir).run.run host).2)).1 = .error .closed

/-- A handle to a store that was handed out and is not open fails lookups. -/
theorem Registers.lookup_eq_closed (hregisters : Registers host handed) (hmem : (place, n) ∈ handed)
    (hnone : host.open? n = none) (hhandle : host.handles[h]? = some n) (t : Triple) :
    ((onHandle h (SharedStore.lookup t)).run.run host).1 = .error .closed := by
  have hnumber : (number h).run.run host = (.ok n, host) := by
    rw [number, run_get_bind, hhandle]
    rfl
  rw [onHandle, run_bind_ok hnumber]
  cases hheld : host.stores[n]? with
  | none => rw [run_onStore_of_none _ hheld]
  | some held =>
    obtain ⟨s, hs⟩ := hregisters.persistent hmem hheld
    have hshut : held.live? = none := by
      rw [open?, hheld] at hnone
      exact hnone
    have hclosed : s.closed = true := by
      cases hclosed : s.closed with
      | true => rfl
      | false =>
        rw [Held.live?_eq_some.2 ⟨hs, hclosed⟩] at hshut
        cases hshut
    obtain ⟨host', hrun, -⟩ := run_onStore (SharedStore.lookup t) hheld
    rw [hrun, Held.load_eq_self hshut, SharedStore.lookup, SharedStore.run_onStore, hs,
      Store.run_lookup_persistent, PersistentStore.run_lookup_closed hclosed]

theorem Registers.closes (hregisters : Registers host handed) (dir : String) :
    Closes host handed dir where
  unplaced hplace := by
    rw [Host.closeRegistered, run_get_bind, ofDisk, hplace]
    rfl
  answers {place} hplace := by
    cases hlive : host.live? place with
    | none =>
      refine ⟨false, _, run_closeRegistered_of_none hplace hlive,
        fun h => absurd h Bool.false_ne_true, ?_⟩
      rintro ⟨n, hmem, hopen⟩
      obtain ⟨s, hs⟩ := Option.isSome_iff_exists.1 hopen
      rw [hregisters.live?_iff.2 ⟨hmem, hs⟩] at hlive
      cases hlive
    | some live =>
      obtain ⟨n, s⟩ := live
      obtain ⟨hmem, hs⟩ := hregisters.live?_iff.1 hlive
      obtain ⟨host', hrun, -⟩ := run_closeRegistered_of_live hplace hlive (hregisters.numbered hmem)
      exact ⟨true, host', hrun, fun _ => ⟨n, hmem, Option.isSome_iff_exists.2 ⟨s, hs⟩⟩,
        fun _ => rfl⟩
  shut {place n} hplace hmem later h hhandle t := by
    have hclosed := hregisters.closeRegistered dir
    have hlater : Registers (run later _) (handed ++ handedOut later _) := registers_run hclosed
    have hnone := (ages_run later _).open?_eq_none (hclosed.numbered hmem)
      (hregisters.open?_closeRegistered hplace hmem)
    exact hlater.lookup_eq_closed (List.mem_append_left _ hmem) hnone hhandle t

/-! ### One live store -/

/-- **One live store for each directory:** however the stores of a host are opened, closed, worked
on and let go of, two open stores that its registry handed out for one directory are one store; to
open the directory gives this store if there is one and its options are the ones asked for, is
refused if there is one with other options, and gives a new store otherwise, unless it fails; and to
close the directory answers whether there was one, and makes all lookups fail on all that was handed
out for it. -/
theorem one_live_store_per_directory (d : Disk) (rs : List Request) :
    let host := run rs { disk := d }
    let handed := handedOut rs { disk := d }
    (∀ place n m, (place, n) ∈ handed → (place, m) ∈ handed → (host.open? n).isSome = true →
        (host.open? m).isSome = true → n = m) ∧
      (∀ h dir options, Opens host handed h dir options) ∧ ∀ dir, Closes host handed dir := by
  intro host handed
  have hregisters : Registers host handed := registers_run (registers_new d)
  refine ⟨fun place n m hn hm hopen hopen' => ?_, hregisters.opens, hregisters.closes⟩
  obtain ⟨s, hs⟩ := Option.isSome_iff_exists.1 hopen
  obtain ⟨s', hs'⟩ := Option.isSome_iff_exists.1 hopen'
  exact hregisters.unique hn hm hs hs'

/-- A store that is handed out twice, and let go of by one of those who got it. -/
theorem one_live_store_per_directory_shared :
    let rs : List Request := [.openRegistered "a" "d" {}, .openRegistered "b" "./d" {}, .drop "a"]
    let host := run rs {}
    handedOut rs {} = [(["d"], 0), (["d"], 0)] ∧ (host.open? 0).isSome = true ∧
      ((closeRegistered "d/.").run.run host).1 = .ok true ∧
      ((closeRegistered "d/.").run.run host).2.handles["b"]? = some 0 ∧
      ∀ t, ((onHandle "b" (SharedStore.lookup t)).run.run
        ((closeRegistered "d/.").run.run host).2).1
        = .error .closed := by
  intro rs host
  have hhanded : handedOut rs {} = [(["d"], 0), (["d"], 0)] := by decide +kernel
  have hopen : (host.open? 0).isSome = true := by decide +kernel
  have hplace : host.disk.canonical "d/." = .ok ["d"] := eq_ok_of_toOption (by decide +kernel)
  have hhandle : ((closeRegistered "d/.").run.run host).2.handles["b"]? = some 0 := by
    decide +kernel
  have hmem : (["d"], 0) ∈ handedOut rs {} := by
    rw [hhanded]
    exact List.mem_cons_self
  obtain ⟨-, -, hcloses⟩ := one_live_store_per_directory {} rs
  obtain ⟨wasOpen, host', hrun, hanswer⟩ := (hcloses "d/.").answers hplace
  refine ⟨hhanded, hopen, ?_, hhandle, fun t => (hcloses "d/.").shut hplace hmem [] hhandle t⟩
  rw [hrun, hanswer.2 ⟨0, hmem, hopen⟩]

/-- **A refused request makes directories:** a directory is open with other options, and the path on
which it is asked for leads through a directory that is missing. -/
theorem refusal_makes_directories :
    let host := run [.openRegistered "a" "d" {}] {}
    let refused := (openRegistered "b" "new/../d" { mode := .merge }).run.run host
    refused.1 = .error (.invalid (.alreadyOpen "d" {} { mode := .merge })) ∧
      host.disk.isDirectoryAt ["new"] = false ∧ refused.2.disk.isDirectoryAt ["new"] = true := by
  intro host refused
  exact ⟨rfl, by decide +kernel, by decide +kernel⟩

end Clearance.Host
