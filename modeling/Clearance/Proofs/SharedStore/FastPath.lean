import Clearance.Proofs.SharedStore.Lifetime

/-!
# The fast path of lookups

As long as no pattern with wildcards has been recorded, a lookup tries the triple itself and nothing
else. A store always knows whether it has such patterns, so nothing is missed: the lookup gives what
trying all five shapes would give. There are two exceptions. A digest may collide with that of the
wildcard, and then the entry of a triple is found for a pattern that has none. And a key may have no
room in the buffers of a store that was opened again with smaller ones, so that trying it would
fail.

## Main definitions

* `Clearance.SharedStore.fullLookup` — a lookup that tries all five shapes.

## Main results

* `Clearance.PersistentStore.Sound.recorded_wildcard` — what would be found for a pattern with
  wildcards.
* `Clearance.PersistentStore.Sound.answer_eq` — lookups, with and without the fast path.
* `Clearance.SharedStore.lasting_marked` — stores in memory.
* `Clearance.SharedStore.fast_path_is_sound`, `Clearance.SharedStore.fast_path_differs`.
-/

namespace Clearance

open PersistentStore (Sound IsEntryOf key?)

namespace PersistentStore

variable {s₀ s : PersistentStore} {t : Triple} {shape : Shape}

/-- The texts of a triple that was looked up are not too long. -/
theorem writable_of_recorded {ls : List Label} (ht : t.isConcrete = true)
    (h : s.recorded .exact t = .ok ls) : s.options.format.Writable t.nodes := by
  unfold recorded at h
  rcases hrun : (encoded s.options.bufferCapacity
    (encodeKey s.options.format .exact t .lookup)).run.run s.table with ⟨e | ⟨known, bytes⟩, table⟩
  · rw [hrun] at h
    cases h
  · obtain ⟨sheet, hrun⟩ := exists_run_of_run_encoded hrun
    exact writable_of_run_encodeKey (Shape.ofPattern?_project ht .exact) hrun

namespace Sound

variable (h : Sound (fun q => s.options.format.TellsWildcard q.o) s₀ s)

include h

/-- There is room for the keys that a triple is looked up with, if there is room for its own, in the
formats without numbers. -/
theorem length_key?_le_capacity (hformat : s.options.format ≠ .byNodeId) (ht : t.isConcrete = true)
    (hexact : s.recorded .exact t = .ok []) {k : Bytes}
    (hk : key? s.options.format s.table shape (shape.project t) = some k) :
    k.length ≤ s.options.bufferCapacity := by
  obtain ⟨k₀, hk₀⟩ := exists_key? hformat s.table .exact t
  obtain ⟨known, bytes, hwrites, hbytes⟩ := writes_lookupKey (E := fun _ => False) h.grown h.fits
    (writable_of_recorded ht hexact) .exact
  have hsame : known = true ∧ k₀ = bytes := by
    rw [hk₀] at hbytes
    cases known with
    | false => cases hbytes
    | true => exact ⟨rfl, Option.some.inj hbytes⟩
  obtain ⟨rfl, rfl⟩ := hsame
  rcases encoded_of_writes hwrites s.options.bufferCapacity with
    ⟨e, last, hrun, -⟩ | ⟨hle, -⟩
  · rw [recorded, hrun] at hexact
    cases hexact
  · exact Nat.le_trans (length_key?_le hformat hk₀ hk) hle

/-- **What would be found for a pattern with wildcards** that is not tried is nothing, or that its
key has no room. There is room in the formats without numbers. -/
theorem recorded_wildcard (hloaded : s.patternsLoaded = false) (ht : t.isConcrete = true)
    (hexact : s.recorded .exact t = .ok []) (hwild : shape.hasWildcard = true) :
    s.recorded shape (shape.project t) = .ok [] ∨ ∃ e,
      (s.options.format = .byNodeId ∧ Overflows s.options.bufferCapacity e) ∧
        s.recorded shape (shape.project t) = .error e := by
  have hnodes : s.options.format.Writable (shape.project t).nodes := by
    intro hformat n hn
    rcases List.mem_cons.1 (shape.nodes_project_subset t hn) with rfl | hn
    · exact ByString.short_any
    · exact writable_of_recorded ht hexact hformat n hn
  obtain ⟨known, k, hwrites, hk⟩ :=
    writes_lookupKey (E := fun _ => False) h.grown h.fits hnodes shape
  rcases encoded_of_writes hwrites s.options.bufferCapacity with
    ⟨e, last, hrun, ⟨hlong, hoverflow⟩ | himpossible⟩ | ⟨-, hrun⟩
  · refine .inr ⟨e, ⟨?_, hoverflow⟩, by rw [recorded, hrun]⟩
    by_cases hformat : s.options.format = .byNodeId
    · exact hformat
    obtain ⟨k', hk'⟩ := exists_key? hformat s.table shape (shape.project t)
    have hle := h.length_key?_le_capacity hformat ht hexact hk'
    cases known with
    | false =>
      rw [hk'] at hk
      cases hk
    | true =>
      rw [hk'] at hk
      cases hk
      omega
  · exact himpossible.elim
  · left
    rw [recorded, hrun]
    cases known with
    | false => rfl
    | true =>
      dsimp only
      rcases hfind : s.db.find? (.ofShape shape) k with _ | v
      · rfl
      have hknown :=
        h.keyed.loaded_of_find? h.grown h.fits (Shape.ofPattern?_project ht shape) hwild hk hfind
      rw [hloaded] at hknown
      cases hknown

/-- **Lookups with and without the fast path** have the same answer, or a key has no room that need
not be written. -/
theorem answer_eq (t : Triple) :
    let full := (resolve t true fun shape key => ExceptT.mk (m := Id) (s.recorded shape key)).run
    s.answer t = full ∨ s.answer t = .ok [] ∧ ∃ e,
      (s.options.format = .byNodeId ∧ Overflows s.options.bufferCapacity e) ∧ full = .error e :=
  run_resolve_full fun hloaded ht hexact _ hwild => h.recorded_wildcard hloaded ht hexact hwild

end Sound

end PersistentStore

namespace SharedStore

/-- **Stores in memory always know whether there are wildcards.** -/
theorem lasting_marked : Lasting (fun _ => True) fun S => ∃ m, S = .memory m ∧ m.Marked where
  apply := by
    rintro _ batch ⟨m, rfl, h⟩ -
    rw [Store.run_apply_memory]
    exact ⟨_, rfl, h.apply⟩
  lookup := by
    rintro _ ⟨m, rfl, h⟩ t
    rw [Store.run_lookup_memory]
    exact ⟨m, rfl, h⟩
  isEmpty := by
    rintro _ ⟨m, rfl, h⟩
    exact ⟨m, rfl, h⟩
  graph := by
    rintro _ ⟨m, rfl, h⟩
    exact ⟨m, rfl, h⟩
  properties := by
    rintro _ ⟨m, rfl, h⟩
    exact ⟨m, rfl, h⟩
  state := by
    rintro s ⟨m, hs, -⟩
    cases hs
  attach := by
    rintro s s' access options db ⟨m, hs, -⟩
    cases hs

/-- What a lookup of a triple would give if all five shapes were tried, and nothing was cached. -/
def fullLookup (t : Triple) (σ : SharedStore) : Except Error (List Label) :=
  match σ.store with
  | .memory m => (resolve t.canonical true m.probe).run
  | .empty => (resolve (m := Id) t true fun _ _ => return []).run
  | .persistent s => ((resolve t.canonical true s.probe).run.run s.reads).1

variable {σ : SharedStore} {s₀ s : PersistentStore}

theorem lookup_eq_fullLookup_memory {m : MemoryStore} (hs : σ.store = .memory m) (h : m.Marked)
    (t : Triple) : ((lookup t).run.run σ).1 = fullLookup t σ := by
  rw [lookup, run_onStore, fullLookup, hs, Store.run_lookup_memory]
  exact h.lookup_eq_full t

theorem lookup_eq_fullLookup_persistent (hs : σ.store = .persistent s)
    (h : Sound (fun q => s.options.format.TellsWildcard q.o) s₀ s) (hopen : s.closed = false)
    (hreach : s.Reachable) (t : Triple) :
    ((lookup t).run.run σ).1 = fullLookup t σ ∨
      s.options.format = .byNodeId ∧ ((lookup t).run.run σ).1 = .ok [] ∧
        ∃ needed, s.options.bufferCapacity < needed ∧
          fullLookup t σ = .error (.overflow needed s.options.bufferCapacity) := by
  obtain ⟨cache, reads, hrun, -⟩ :=
    PersistentStore.run_lookup hopen hreach h.coherent.caches t
  have hanswer : ((lookup t).run.run σ).1 = s.answer t.canonical := by
    rw [lookup, run_onStore, hs, Store.run_lookup_persistent, hrun]
  rw [hanswer, fullLookup, hs]
  dsimp only
  rw [PersistentStore.run_resolve_probe hreach]
  refine (h.answer_eq t.canonical).imp id ?_
  rintro ⟨hnil, _, ⟨hformat, needed, hneeded, rfl⟩, hfull⟩
  exact ⟨hformat, hnil, needed, hneeded, hfull⟩

/-- **The fast path is sound.** A store in memory, whatever it was asked, says that patterns with
wildcards were recorded if it has any; and its lookups give what trying all five shapes would give.
A persistent store, whatever it lived through, says so exactly if its database does. It says so when
a batch was written that names a pattern with wildcards, and for ever after. All of its rows are the
entries of patterns that it was to record, and it says so if one of them has wildcards. If moreover
no node that stands as the object of these patterns has the digest of the wildcard, then it says so
as soon as there is a row under the key of any pattern with wildcards; and a lookup, as long as the
store is open and its database can be read, gives what trying all five shapes would give, except
that with numbers as keys it may find nothing where trying them would fail for want of room in the
buffers. -/
theorem fast_path_is_sound :
    (∀ ops σ, Leads { store := .memory {} } ops σ → ∃ m, σ.store = .memory m ∧
      (∀ (q : Triple) (ls : List Label), m.entries[q]? = some ls → q.isConcrete = false →
        m.patternsLoaded = true) ∧
      ∀ t, ((lookup t).run.run σ).1 = fullLookup t σ) ∧
    ∀ dir ops σ, Lived dir ops σ → ∃ s, σ.store = .persistent s ∧
      (s.patternsLoaded = true ↔ s.db.setting? "patterns_loaded" = some "true") ∧
      (∀ batch S, (Store.apply batch).run.run σ.store = (.ok ⟨⟩, S) → ∀ c ∈ batch,
        c.pattern.canonical.isConcrete = false →
          ∃ s', S = .persistent s' ∧ s'.patternsLoaded = true) ∧
      (s.patternsLoaded = true → ∀ later τ, Leads σ later τ →
        ∃ s', τ.store = .persistent s' ∧ s'.patternsLoaded = true) ∧
      (∀ space k v, s.db.find? space k = some v → ∃ op ∈ ops, ∃ c ∈ op.changes, ∃ shape,
        IsEntryOf s.options.format s.table space k c.pattern.canonical shape ∧
          (shape.hasWildcard = true → s.patternsLoaded = true)) ∧
      ((∀ op ∈ ops, ∀ c ∈ op.changes, s.options.format.TellsWildcard c.pattern.canonical.o) →
        (∀ q shape space k v, IsEntryOf s.options.format s.table space k q shape →
          shape.hasWildcard = true → s.db.find? space k = some v → s.patternsLoaded = true) ∧
        (s.closed = false → s.Reachable → ∀ t,
          ((lookup t).run.run σ).1 = fullLookup t σ ∨
            s.options.format = .byNodeId ∧ ((lookup t).run.run σ).1 = .ok [] ∧
              ∃ needed, s.options.bufferCapacity < needed ∧
                fullLookup t σ = .error (.overflow needed s.options.bufferCapacity))) := by
  constructor
  · intro ops σ hσ
    obtain ⟨⟨m, hm, hmarked⟩, -⟩ := lasting_marked.leads ⟨{}, rfl, MemoryStore.marked_empty⟩
      (collected_of_no_txns rfl) hσ fun _ _ _ _ => trivial
    refine ⟨m, hm, fun q ls hq hwild => ?_, lookup_eq_fullLookup_memory hm hmarked⟩
    obtain ⟨shape, hshape, hloaded⟩ := hmarked q ls hq
    exact hloaded (Shape.hasWildcard_of_not_isConcrete hshape hwild)
  · intro dir ops σ hσ
    obtain ⟨s, hs, h⟩ := hσ.exists_sound
      (Q := fun q => ∃ op ∈ ops, ∃ c ∈ op.changes, q = c.pattern.canonical)
      fun op hop c hc => ⟨op, hop, c, hc, rfl⟩
    have hflag : s.patternsLoaded = decide (s.db.setting? "patterns_loaded" = some "true") :=
      h.coherent.patterns
    refine ⟨s, hs, by simp [hflag], fun batch S happly c hc hwild => ?_,
      fun hloaded later τ hleads => ?_, fun space k v hfind => ?_, fun htells => ?_⟩
    · rw [hs, Store.run_apply_persistent] at happly
      cases hwritten : s.written batch with
      | error e =>
        rw [hwritten] at happly
        cases happly
      | ok s' =>
        rw [hwritten] at happly
        cases happly
        exact ⟨s', rfl,
          PersistentStore.patternsLoaded_of_written_wildcard h.grown hwritten hc hwild⟩
    · obtain ⟨s', hs', hany⟩ := hσ.exists_sound (Q := fun _ => True) fun _ _ _ _ => trivial
      obtain rfl : s = s' := Store.persistent.inj (hs.symm.trans hs')
      obtain ⟨s', hs', h'⟩ := exists_of_leads hs hany hleads
      exact ⟨s', hs', h'.marked hloaded⟩
    · obtain ⟨_, shape, ⟨op, hop, c, hc, rfl⟩, hentry, hloaded⟩ := h.keyed space k v hfind
      exact ⟨op, hop, c, hc, shape, hentry, hloaded⟩
    obtain ⟨s', hs', h'⟩ :=
      hσ.exists_sound (Q := fun q => s.options.format.TellsWildcard q.o) htells
    obtain rfl : s = s' := Store.persistent.inj (hs.symm.trans hs')
    refine ⟨fun q shape space k v hentry hwild hfind => ?_, lookup_eq_fullLookup_persistent hs h'⟩
    obtain rfl := hentry.space_eq
    exact h'.keyed.loaded_of_find? h'.grown h'.fits hentry.shape_eq hwild hentry.key_eq hfind

/-- A triple of IRIs. -/
def iris (s p o : String) : Triple := ⟨.uri s, .uri p, .uri o⟩

/-- An addition, a removal that is refused, and a restart. -/
def restart : List Op :=
  [.addAlone (iris "s" "p" "o") [.allow], .apply [.remove (iris "s" "p" "o")], .close, .reopen]

/-- A persistent store with digests as keys after these requests. -/
def restarted : SharedStore :=
  (run restart
    { store := .persistent (PersistentStore.fresh "labels" { format := .byHash .xx32 }) }).2

theorem fast_path_is_sound_restarted :
    (∃ s, restarted.store = .persistent s ∧ s.patternsLoaded = false ∧
      ((lookup (iris "s" "p" "x")).run.run restarted).1 = fullLookup (iris "s" "p" "x") restarted ∧
      ((lookup (iris "s" "p" "x")).run.run restarted).1 = .ok [] ∧
      ((lookup (iris "s" "p" "o")).run.run restarted).1 = .ok [.allow]) ∧
    ∃ m, (run restart { store := .memory {} }).2.store = .memory m ∧
      ((lookup (iris "s" "p" "x")).run.run (run restart { store := .memory {} }).2).1
        = fullLookup (iris "s" "p" "x") (run restart { store := .memory {} }).2 := by
  have hleads : Leads { store := .memory {} } restart (run restart { store := .memory {} }).2 :=
    Leads.here.run
  obtain ⟨m, hm, -, hmemory⟩ := fast_path_is_sound.1 _ _ hleads
  refine ⟨?_, m, hm, hmemory _⟩
  have hlived : Lived "labels" restart restarted := lived_run _ _ _
  obtain ⟨s, hs, -, -, -, -, htells⟩ := fast_path_is_sound.2 _ _ _ hlived
  have hstate : (restarted.store.persistent?.map fun s =>
      (s.patternsLoaded, s.closed, s.access, s.options.format))
        = some (false, false, {}, .byHash .xx32) := by decide +kernel
  have hdigests : ∀ op ∈ restart, ∀ c ∈ op.changes,
      DigestAlgorithm.xx32.digest (Utf8.encode (ByHash.subject c.pattern.canonical.o))
        ≠ DigestAlgorithm.xx32.digest (Utf8.encode (ByHash.subject .any)) := by decide +kernel
  rw [hs] at hstate
  simp only [Store.persistent?, Option.map_some, Option.some.injEq, Prod.mk.injEq] at hstate
  obtain ⟨hflag, hopen, haccess, hformat⟩ := hstate
  rw [hformat] at htells
  obtain ⟨-, hlookup⟩ := htells fun op hop c hc algorithm heq _ => by
    cases heq
    exact hdigests op hop c hc
  refine ⟨s, hs, hflag, (hlookup hopen (PersistentStore.reachable_of_access_eq haccess)
    (iris "s" "p" "x")).resolve_right ?_, eq_ok_of_toOption (by decide +kernel),
    eq_ok_of_toOption (by decide +kernel)⟩
  rintro ⟨hnumbers, -⟩
  cases hnumbers

/-- A store with digests as keys after an addition for an IRI whose digest is that of the
wildcard. -/
def collided : SharedStore :=
  (run [.addAlone (iris "s" "p" "cfolcVe") [.ofText "role=admin"]]
    { store := .persistent (PersistentStore.fresh "labels" { format := .byHash .xx32 }) }).2

/-- A store with numbers as keys that was opened again with buffers of one byte. -/
def narrowed : SharedStore :=
  openedWith { format := .byNodeId, bufferCapacity := 1 }
    (run [.addAlone (iris "s" "p" "o") [.allow]]
      { store := .persistent (PersistentStore.fresh "labels" { format := .byNodeId }) }).2

/-- A store that was closed. -/
def shut : SharedStore :=
  (run [.addAlone (iris "s" "p" "o") [.allow], .close]
    { store := .persistent (PersistentStore.fresh "labels" {}) }).2

/-- Lookups do not give what trying all five shapes would give when digests collide, when a key has
no room, and when the store is closed. -/
theorem fast_path_differs :
    ((∃ ops, Lived "labels" ops collided) ∧
      ((lookup (iris "s" "p" "o")).run.run collided).1.toOption = some [] ∧
      (fullLookup (iris "s" "p" "o") collided).toOption = some [.ofText "role=admin"]) ∧
    ((∃ ops, Lived "labels" ops narrowed) ∧
      ((lookup (iris "x" "p" "o")).run.run narrowed).1.toOption = some [] ∧
      (fullLookup (iris "x" "p" "o") narrowed).toOption = none) ∧
    (∃ ops, Lived "labels" ops shut) ∧
      ((lookup (iris "s" "p" "o")).run.run shut).1.toOption = none ∧
      (fullLookup (iris "s" "p" "o") shut).toOption = some [.allow] := by
  refine ⟨⟨⟨_, lived_run _ _ _⟩, ?_, ?_⟩, ⟨?_, ?_, ?_⟩, ⟨_, lived_run _ _ _⟩, ?_, ?_⟩
  · decide +kernel
  · decide +kernel
  · obtain ⟨options, s₀, hattach, hleads⟩ := lived_run "labels" { format := .byNodeId }
      [.addAlone (iris "s" "p" "o") [.allow]]
    exact ⟨_, options, s₀, hattach, hleads.openedWith _⟩
  · decide +kernel
  · decide +kernel
  · decide +kernel
  · decide +kernel

end SharedStore

end Clearance
