import Clearance.Proofs.PersistentStore.Coherence
import Clearance.Proofs.PersistentStore.Inspection

/-!
# Stores that are alike

Two coherent stores are *alike* when they differ at most in what they have cached and counted, and
in how much they may cache. Whatever is asked of such stores, the answers are the same, and the
stores stay alike.

## Main definitions

* `Clearance.PersistentStore.Alike` — stores that are alike.

## Main results

* `Clearance.PersistentStore.agree_lookup`, `Clearance.PersistentStore.agree_inspect_alike`,
  `Clearance.PersistentStore.listing_alike` — reading.
* `Clearance.PersistentStore.agree_apply` — batches.
* `Clearance.PersistentStore.Coherent.alike_reattached` — a store that was opened again.
-/

namespace Clearance.PersistentStore

variable {dir : String} {options options' : StoreOptions} {s s' : PersistentStore}

/-! ### Stores that are alike -/

/-- Coherent stores for a directory that differ at most in what they have cached and counted, and in
how much they may cache. -/
structure Alike (dir : String) (options options' : StoreOptions) (s s' : PersistentStore) :
    Prop where
  /-- The first store is coherent. -/
  left : s.Coherent dir options
  /-- The second store is coherent. -/
  right : s'.Coherent dir options'
  /-- The formats are the same. -/
  format_eq : s.options.format = s'.options.format
  /-- The modes are the same. -/
  mode_eq : s.options.mode = s'.options.mode
  /-- The buffers have the same size. -/
  capacity_eq : s.options.bufferCapacity = s'.options.bufferCapacity
  /-- The databases are the same. -/
  db_eq : s.db = s'.db
  /-- The tables of nodes are the same. -/
  table_eq : s.table = s'.table
  /-- The marks for wildcards are the same. -/
  patternsLoaded_eq : s.patternsLoaded = s'.patternsLoaded
  /-- Both stores are closed, or none. -/
  closed_eq : s.closed = s'.closed

/-- A coherent store is alike to itself opened again. -/
theorem Coherent.alike_reattached (h : s.Coherent dir options) (hopen : s.closed = false) :
    Alike dir options options s s.reattached :=
  ⟨h, h.reattached, rfl, rfl, rfl, rfl, rfl, rfl, hopen⟩

theorem Coherent.alike_self (h : s.Coherent dir options) : Alike dir options options s s :=
  ⟨h, h, rfl, rfl, rfl, rfl, rfl, rfl, rfl⟩

namespace Alike

theorem counted (h : Alike dir options options' s s') :
    Alike dir options options' s.counted s'.counted :=
  { h with left := { h.left with }, right := { h.right with } }

/-- What is cached does not matter, as long as the cached answers are right. -/
theorem setCache (h : Alike dir options options' s s')
    {cache cache' : BoundedCache Triple (List Label)} {reads reads' : Nat}
    (hcache : s.Caches cache) (hcache' : s'.Caches cache') :
    Alike dir options options' { s with cache, reads }
      { s' with cache := cache', reads := reads' } :=
  { h with
    left := { h.left with caches := hcache }
    right := { h.right with caches := hcache' } }

theorem setClosed (h : Alike dir options options' s s') :
    Alike dir options options' { s with closed := true } { s' with closed := true } :=
  { h with left := { h.left with }, right := { h.right with }, closed_eq := rfl }

theorem reattached (h : Alike dir options options' s s') :
    Alike dir options options' s.reattached s'.reattached :=
  { h with left := h.left.reattached, right := h.right.reattached, closed_eq := rfl }

theorem answer_eq (h : Alike dir options options' s s') (t : Triple) :
    s.answer t = s'.answer t := by
  unfold answer recorded
  rw [h.patternsLoaded_eq, h.format_eq, h.capacity_eq, h.table_eq, h.db_eq]

theorem facts_eq (h : Alike dir options options' s s') : s.facts = s'.facts := by
  unfold facts
  rw [h.left.dir_eq, h.right.dir_eq, h.format_eq, h.mode_eq, h.db_eq, h.patternsLoaded_eq,
    h.table_eq]

theorem entriesOfRows_eq (h : Alike dir options options' s s') :
    ∀ rs : List (Keyspace × Bytes × Bytes), s.entriesOfRows rs = s'.entriesOfRows rs
  | [] => rfl
  | row :: rs => by
    have hrow : s.entryOfRow row = s'.entryOfRow row := by
      unfold entryOfRow
      rw [h.format_eq, h.table_eq]
    rw [entriesOfRows, entriesOfRows, hrow, h.entriesOfRows_eq rs]

theorem entryOf_eq (h : Alike dir options options' s s') (c : Change) :
    entryOf s.options c = entryOf s'.options c := by
  cases c with
  | add pattern labels => simp only [entryOf, h.format_eq, h.capacity_eq]
  | remove pattern => rfl

theorem entriesOf_eq (h : Alike dir options options' s s') :
    ∀ batch : List Change, entriesOf s.options batch = entriesOf s'.options batch
  | [] => rfl
  | c :: cs => by rw [entriesOf, entriesOf, h.entryOf_eq, h.entriesOf_eq cs]

end Alike

/-! ### Reading -/

theorem agree_lookup (t : Triple) :
    Agree (Alike dir options options') (lookup t) (lookup t) := by
  intro s s' h
  cases hclosed : s.closed with
  | true =>
    rw [run_lookup_closed hclosed, run_lookup_closed (h.closed_eq ▸ hclosed)]
    exact ⟨rfl, h⟩
  | false =>
    obtain ⟨cache, reads, hrun, hcache⟩ :=
      run_lookup hclosed (reachable_of_access_eq h.left.access_eq) h.left.caches t
    obtain ⟨cache', reads', hrun', hcache'⟩ := run_lookup (h.closed_eq ▸ hclosed)
      (reachable_of_access_eq h.right.access_eq) h.right.caches t
    rw [hrun, hrun', h.answer_eq]
    exact ⟨rfl, h.setCache hcache hcache'⟩

theorem agree_inspect_alike {α : Type} {view : PersistentStore → α}
    (hview : ∀ s s', Alike dir options options' s s' → view s = view s') :
    Agree (Alike dir options options') (inspect view) (inspect view) := by
  intro s s' h
  rw [run_inspect_of_access view h.left.access_eq, run_inspect_of_access view h.right.access_eq,
    h.closed_eq, hview s s' h]
  split
  · exact ⟨rfl, h⟩
  · exact ⟨rfl, h.counted⟩

theorem agree_isEmpty : Agree (Alike dir options options') isEmpty isEmpty :=
  agree_inspect_alike fun _ _ h => congrArg Database.isEmpty h.db_eq

theorem agree_properties : Agree (Alike dir options options') properties properties :=
  agree_inspect_alike fun _ _ h => h.facts_eq

theorem listing_alike (h : Alike dir options options' s s') :
    (listing.run s).1 = (listing.run s').1 ∧
      Alike dir options options' (listing.run s).2 (listing.run s').2 :=
  agree_listing (fun _ _ h => h.format_eq.symm) (agree_inspect_alike fun s s' h => by
    rw [h.db_eq, h.entriesOfRows_eq]) h

/-! ### Writing -/

/-- A batch is refused by both of two stores, or written to both. -/
theorem Alike.written (h : Alike dir options options' s s') (batch : List Change) :
    (∃ e, s.written batch = .error e ∧ s'.written batch = .error e) ∨
      ∃ r r', s.written batch = .ok r ∧ s'.written batch = .ok r' ∧
        Alike dir options options' r r' := by
  cases hclosed : s.closed with
  | true =>
    have hclosed' : s'.closed = true := h.closed_eq ▸ hclosed
    exact .inl ⟨.closed, by rw [PersistentStore.written, if_pos hclosed],
      by rw [PersistentStore.written, if_pos hclosed']⟩
  | false =>
    have hclosed' : s'.closed = false := h.closed_eq ▸ hclosed
    rcases hentries : (entriesOf s.options batch).run.run s.table with ⟨e | entries, table⟩
    · have hentries' := hentries
      rw [h.entriesOf_eq, h.table_eq] at hentries'
      refine .inl ⟨e, ?_, ?_⟩
      · rw [PersistentStore.written, if_neg (Bool.eq_false_iff.1 hclosed), hentries]
      · rw [PersistentStore.written, if_neg (Bool.eq_false_iff.1 hclosed'), hentries']
    · have hentries' := hentries
      rw [h.entriesOf_eq, h.table_eq] at hentries'
      obtain ⟨hext, hfits, -⟩ := table_of_entriesOf hentries
      obtain ⟨nodes, hwrite, -⟩ := h.left.write_eq entries hext (hfits h.left.fits)
      have hwrite' : s'.access.write s'.db s'.options.mode
          (s'.writeSet entries table s'.table.size) = .ok (s.writtenDb entries nodes) := by
        rw [← hwrite, h.left.access_eq, h.right.access_eq, h.db_eq, h.mode_eq, h.table_eq]
        unfold writeSet
        rw [h.patternsLoaded_eq]
      have hleft := written_of_write hclosed hentries hwrite
      have hright := written_of_write hclosed' hentries' hwrite'
      refine .inr ⟨_, _, hleft, hright, { h with
        left := h.left.written hleft
        right := h.right.written hright
        db_eq := rfl
        table_eq := rfl
        patternsLoaded_eq := ?_ }⟩
      show (s.patternsLoaded || _) = (s'.patternsLoaded || _)
      rw [h.patternsLoaded_eq]

theorem agree_apply (batch : List Change) :
    Agree (Alike dir options options') (apply batch) (apply batch) := by
  intro s s' h
  rw [run_apply, run_apply]
  rcases h.written batch with ⟨e, hleft, hright⟩ | ⟨r, r', hleft, hright, hr⟩
  · rw [hleft, hright]
    exact ⟨rfl, h⟩
  · rw [hleft, hright]
    exact ⟨rfl, hr⟩

end Clearance.PersistentStore
