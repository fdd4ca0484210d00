import Clearance.Proofs.MemoryStore.Contents
import Clearance.Proofs.PersistentStore.Coherence
import Clearance.Proofs.PersistentStore.PatternKeys

/-!
# The keys that a database holds

Every row of a database is the entry of a pattern that was added: it stands under the key of the
pattern, in the table for the shape of the pattern. If the pattern has wildcards, the store knows
that such patterns were recorded. A row under the key of a pattern with wildcards therefore tells
that there are wildcards, unless the key is that of another pattern, too; this takes digests that
collide.

## Main definitions

* `Clearance.PersistentStore.Keyed` — databases whose rows are the entries of certain patterns.
* `Clearance.KeyFormat.TellsWildcard` — nodes whose keys are not taken for the wildcard.

## Main results

* `Clearance.PersistentStore.patternsLoaded_of_written_wildcard` — stores know of the wildcards that
  they write.
* `Clearance.PersistentStore.Keyed.written` — batches.
* `Clearance.PersistentStore.Keyed.loaded_of_find?` — rows under the keys of wildcards.
-/

namespace Clearance

/-- Whether the key of a node is not taken for that of the wildcard: digests may collide. -/
def KeyFormat.TellsWildcard (format : KeyFormat) (n : Node) : Prop :=
  ∀ algorithm, format = .byHash algorithm → n ≠ .any →
    algorithm.digest (Utf8.encode (ByHash.subject n))
      ≠ algorithm.digest (Utf8.encode (ByHash.subject .any))

namespace PersistentStore

open EncodeM KeyFormat NodeTable
open LabelList (record Small)

variable {P : Triple → Prop} {format : KeyFormat} {t t' : NodeTable} {loaded loaded' : Bool}
  {db : Database} {shape : Shape} {q : Triple} {space : Keyspace} {k v : Bytes}
  {batch : List Change}

/-! ### Entries -/

/-- Whether a row is the entry of a pattern. -/
structure IsEntryOf (format : KeyFormat) (t : NodeTable) (space : Keyspace) (k : Bytes) (q : Triple)
    (shape : Shape) : Prop where
  /-- The wildcards of the pattern stand where they may. -/
  shape_eq : Shape.ofPattern? q = some shape
  /-- The row stands in the table for the shape. -/
  space_eq : Keyspace.ofShape shape = space
  /-- It stands under the key of the pattern. -/
  key_eq : key? format t shape q = some k

theorem IsEntryOf.mono (h : IsEntryOf format t space k q shape) (hext : t.Extends t') :
    IsEntryOf format t' space k q shape := { h with key_eq := key?_mono hext h.key_eq }

/-- Whether an entry is what a change writes: labels, under the key of a pattern. -/
structure IsPutOf (format : KeyFormat) (t : NodeTable) (c : Change) (e : Shape × Put) : Prop where
  /-- The change is an addition. -/
  change_eq : c = .add c.pattern c.labels
  /-- It is the entry of the pattern. -/
  entry : IsEntryOf format t e.2.space e.2.key c.pattern.canonical e.1
  /-- The texts of the pattern can be written. -/
  writable : format.Writable c.pattern.canonical.nodes
  /-- The lengths of the labels can be written. -/
  small : Small c.labels
  /-- The value is the record of the labels. -/
  value_eq : e.2.value = record c.labels

theorem IsPutOf.mono {c : Change} {e : Shape × Put} (h : IsPutOf format t c e)
    (hext : t.Extends t') : IsPutOf format t' c e := { h with entry := h.entry.mono hext }

/-- What a change writes are its labels, under the key of its pattern. -/
theorem isPutOf_of_run_entryOf {options : StoreOptions} {c : Change} {e : Shape × Put}
    (ht : empty.Extends t) (h : (entryOf options c).run.run t = (.ok e, t')) :
    IsPutOf options.format t' c e := by
  cases c with
  | remove pattern => cases h
  | add pattern labels =>
    rcases hshape : Shape.ofPattern? pattern.canonical with _ | shape'
    · rw [entryOf, Shape.ofPattern, hshape] at h
      cases h
    have hpattern : (liftM (Shape.ofPattern pattern.canonical) : ExceptT Error (StateM NodeTable)
        Shape).run.run t = (.ok shape', t) := by
      rw [Shape.ofPattern_eq_ok.2 hshape]
      rfl
    rw [entryOf, run_bind_ok hpattern] at h
    obtain ⟨⟨known, key⟩, t₁, hkey, h⟩ := run_bind_eq_ok h
    obtain ⟨⟨u, value⟩, t₂, hvalue, h⟩ := run_bind_eq_ok h
    cases h
    obtain ⟨_, hkeyrun⟩ := exists_run_of_run_encoded hkey
    obtain ⟨_, hlabels⟩ := exists_run_of_run_encoded hvalue
    have hsmall := LabelList.small_of_run_encode hlabels
    have hkept := encoded_of_writes (LabelList.writes_encode (E := fun _ => False) hsmall t₁)
      options.bufferCapacity
    rw [hvalue] at hkept
    rcases hkept with ⟨e, last, herror, -⟩ | ⟨-, hok⟩
    · cases herror
    cases hok
    exact {
      change_eq := rfl
      entry := ⟨hshape, rfl, key?_of_run_store ht hshape hkey⟩
      writable := writable_of_run_encodeKey hshape hkeyrun
      small := hsmall
      value_eq := rfl }

/-- What a batch writes are the entries of its changes, and there is one for every change. -/
theorem isPutOf_of_run_entriesOf {options : StoreOptions} : ∀ {batch : List Change}
    {t : NodeTable} {entries : List (Shape × Put)}, empty.Extends t →
    (entriesOf options batch).run.run t = (.ok entries, t') →
      (∀ e ∈ entries, ∃ c ∈ batch, IsPutOf options.format t' c e) ∧
        ∀ c ∈ batch, ∃ e ∈ entries, IsPutOf options.format t' c e
  | [], _, _, _, h => by
    cases h
    simp
  | c :: cs, t, _, ht, h => by
    obtain ⟨entry, t₁, hentry, h⟩ := run_bind_eq_ok h
    obtain ⟨rest, t₂, hrest, h⟩ := run_bind_eq_ok h
    cases h
    have hgrows := (grows_entryOf options c).extends_table t
    rw [hentry] at hgrows
    obtain ⟨hext, -, -⟩ := table_of_entriesOf hrest
    have hfirst := (isPutOf_of_run_entryOf ht hentry).mono hext
    obtain ⟨hentries, hchanges⟩ := isPutOf_of_run_entriesOf (ht.trans hgrows) hrest
    constructor
    · intro e he
      rcases List.mem_cons.1 he with rfl | he
      · exact ⟨c, List.mem_cons_self, hfirst⟩
      · obtain ⟨c', hc', hentry'⟩ := hentries e he
        exact ⟨c', List.mem_cons_of_mem _ hc', hentry'⟩
    · intro c' hc'
      rcases List.mem_cons.1 hc' with rfl | hc'
      · exact ⟨entry, List.mem_cons_self, hfirst⟩
      · obtain ⟨e, he, hentry'⟩ := hchanges c' hc'
        exact ⟨e, List.mem_cons_of_mem _ he, hentry'⟩

/-! ### The mark for wildcards -/

section Mark

variable {s s' : PersistentStore}

/-- A store that knows of wildcards still does after a batch. -/
theorem patternsLoaded_of_written (h : s.written batch = .ok s')
    (hloaded : s.patternsLoaded = true) : s'.patternsLoaded = true := by
  obtain ⟨entries, table, db, -, -, -, rfl⟩ := written_eq_ok h
  exact Bool.or_eq_true_iff.2 (.inl hloaded)

/-- **A store that has written a pattern with wildcards knows it.** -/
theorem patternsLoaded_of_written_wildcard {c : Change} (ht : empty.Extends s.table)
    (h : s.written batch = .ok s') (hc : c ∈ batch)
    (hwild : c.pattern.canonical.isConcrete = false) : s'.patternsLoaded = true := by
  obtain ⟨entries, table, db, -, hentries, -, rfl⟩ := written_eq_ok h
  obtain ⟨e, he, hput⟩ := (isPutOf_of_run_entriesOf ht hentries).2 c hc
  have hany : entries.any (·.1.hasWildcard) = true :=
    List.any_eq_true.2 ⟨e, he, Shape.hasWildcard_of_not_isConcrete hput.entry.shape_eq hwild⟩
  exact Bool.or_eq_true_iff.2 (.inr hany)

end Mark

/-! ### Databases -/

/-- Whether all rows of a database are entries of patterns with a property, and the patterns among
them that have wildcards are known. -/
def Keyed (P : Triple → Prop) (format : KeyFormat) (t : NodeTable) (loaded : Bool) (db : Database) :
    Prop :=
  ∀ space k v, db.find? space k = some v → ∃ q shape, P q ∧ IsEntryOf format t space k q shape ∧
    (shape.hasWildcard = true → loaded = true)

theorem keyed_fresh (dir : String) (options : StoreOptions) :
    Keyed P format t loaded (fresh dir options).db := by
  intro space k v h
  have hnone : (fresh dir options).db.find? space k = none := by cases space <;> rfl
  rw [hnone] at h
  cases h

/-- **Rows stay entries** after every batch that is written. -/
theorem Keyed.written {s s' : PersistentStore} {dir : String} {options : StoreOptions}
    (h : Keyed P s.options.format s.table s.patternsLoaded s.db)
    (hcoherent : s.Coherent dir options)
    (hbatch : ∀ c ∈ batch, P c.pattern.canonical) (hwritten : s.written batch = .ok s') :
    Keyed P s'.options.format s'.table s'.patternsLoaded s'.db := by
  obtain ⟨entries, table, db, -, hentries, hwrite, rfl⟩ := written_eq_ok hwritten
  obtain ⟨hext, hfits, -⟩ := table_of_entriesOf hentries
  obtain ⟨nodes, hwrite', -⟩ := hcoherent.write_eq entries hext (hfits hcoherent.fits)
  rw [hwrite] at hwrite'
  cases hwrite'
  intro space k v hfind
  change (s.writtenDb entries nodes).find? space k = some v at hfind
  rw [find?_writtenDb] at hfind
  rcases Database.exists_of_find?_putAll hfind with ⟨w, hw⟩ | ⟨p, hp, rfl, rfl⟩
  · obtain ⟨q, shape, hq, hentry, hloaded⟩ := h _ _ _ hw
    exact ⟨q, shape, hq, hentry.mono hext,
      fun hwild => Bool.or_eq_true_iff.2 (.inl (hloaded hwild))⟩
  · obtain ⟨e, he, rfl⟩ := List.mem_map.1 hp
    obtain ⟨c, hc, hput⟩ := (isPutOf_of_run_entriesOf hcoherent.grown hentries).1 e he
    have hany (hwild : e.1.hasWildcard = true) : entries.any (·.1.hasWildcard) = true :=
      List.any_eq_true.2 ⟨e, he, hwild⟩
    exact ⟨_, e.1, hbatch c hc, hput.entry, fun hwild => Bool.or_eq_true_iff.2 (.inr (hany hwild))⟩

/-- **A row under the key of a pattern with wildcards tells that there are wildcards**, unless
digests collide. -/
theorem Keyed.loaded_of_find? (h : Keyed (fun q => format.TellsWildcard q.o) format t loaded db)
    (ht : empty.Extends t) (hfits : t.Fits) (hshape : Shape.ofPattern? q = some shape)
    (hwild : shape.hasWildcard = true) (hk : key? format t shape q = some k)
    (hfind : db.find? (.ofShape shape) k = some v) : loaded = true := by
  obtain ⟨q', shape', htells, hentry, hloaded⟩ := h _ _ _ hfind
  by_cases hwild' : shape'.hasWildcard = true
  · exact hloaded hwild'
  obtain rfl : shape' = .exact := by simpa [Shape.hasWildcard] using hwild'
  have hspace := hentry.space_eq
  obtain rfl : shape = .subjectPredicate := by
    cases shape with
    | exact => cases hwild
    | subjectPredicate => rfl
    | _ => cases hspace
  have hobject := Shape.isConcrete_of_exact hentry.shape_eq
  refine absurd hentry.key_eq (key?_ne_of_wildcard ht hfits hshape hentry.shape_eq ?_ hk)
  intro algorithm hformat
  refine htells algorithm hformat fun hany => ?_
  simp [Triple.isConcrete, hany, Node.isConcrete] at hobject

end PersistentStore

end Clearance
