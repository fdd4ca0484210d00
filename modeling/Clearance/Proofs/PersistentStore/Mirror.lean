import Clearance.Proofs.MemoryStore.Contents
import Clearance.Proofs.PersistentStore.Coherence
import Clearance.Proofs.PersistentStore.PatternKeys

/-!
# Persistent stores that mirror stores in memory

A persistent store that overwrites *mirrors* a store in memory when its database holds the entries
of the store in memory, each under its key, and nothing else. It then gives the labels that the
store in memory gives, as they come back from a store. Writing a batch keeps a mirror a mirror,
unless the persistent store refuses the batch for want of room in its buffers, or of numbers.

## Main definitions

* `Clearance.PersistentStore.Mirrors` — databases and the entries that they hold.
* `Clearance.PersistentStore.MirrorOf` — stores that mirror stores in memory.
* `Clearance.PersistentStore.Follows` — answers of a mirror.
* `Clearance.Change.Legal` — additions to mirrors.

## Main results

* `Clearance.PersistentStore.MirrorOf.answer` — lookups.
* `Clearance.PersistentStore.MirrorOf.written` — batches.
-/

namespace Clearance

/-- Whether a change adds labels to a pattern of certain nodes, and is fit to be written. -/
def Change.Legal (N : List Node) : Change → Prop
  | .add pattern labels => (∃ shape, Shape.ofPattern? pattern = some shape) ∧
      pattern.canonical.nodes ⊆ N ∧ LabelList.Small labels
  | .remove _ => False

namespace PersistentStore

open EncodeM KeyFormat NodeTable
open LabelList (record stored Small)

/-- The labels by pattern that a store in memory keeps. -/
abbrev Entries := Std.ExtTreeMap Triple (List Label)

variable {format : KeyFormat} {N : List Node} {q : Triple} {t t' : NodeTable} {shape : Shape}
  {k : Bytes} {ls : List Label} {db db' : Database} {entries : Entries}

/-- Whether a database holds certain entries and no others, each under its key. -/
structure Mirrors (format : KeyFormat) (N : List Node) (t : NodeTable) (db : Database)
    (entries : Entries) : Prop where
  /-- The entries are in the database. -/
  known {q : Triple} {ls : List Label} (h : entries[q]? = some ls) : ∃ shape k,
    Shape.ofPattern? q = some shape ∧ q.nodes ⊆ N ∧ Small ls ∧ key? format t shape q = some k ∧
      db.find? (.ofShape shape) k = some (record ls)
  /-- There is nothing else in the database. -/
  rows {space : Keyspace} {k v : Bytes} (h : db.find? space k = some v) : ∃ q ls shape,
    entries[q]? = some ls ∧ Shape.ofPattern? q = some shape ∧ Keyspace.ofShape shape = space ∧
      key? format t shape q = some k

namespace Mirrors

theorem mono (h : Mirrors format N t db entries) (hext : t.Extends t') :
    Mirrors format N t' db entries where
  known hq := by
    obtain ⟨shape, k, hshape, hnodes, hsmall, hk, hfind⟩ := h.known hq
    exact ⟨shape, k, hshape, hnodes, hsmall, key?_mono hext hk, hfind⟩
  rows hfind := by
    obtain ⟨q, ls, shape, hq, hshape, hspace, hk⟩ := h.rows hfind
    exact ⟨q, ls, shape, hq, hshape, hspace, key?_mono hext hk⟩

theorem congr (h : Mirrors format N t db entries)
    (hdb : ∀ space k, db'.find? space k = db.find? space k) : Mirrors format N t db' entries where
  known hq := by
    obtain ⟨shape, k, hshape, hnodes, hsmall, hk, hfind⟩ := h.known hq
    exact ⟨shape, k, hshape, hnodes, hsmall, hk, (hdb _ _).trans hfind⟩
  rows hfind := h.rows ((hdb _ _).symm.trans hfind)

variable (hsuits : format.Suits N) (ht : NodeTable.empty.Extends t) (hfits : t.Fits)

include hsuits ht hfits

/-- What the database has under the key of a pattern is what is recorded for the pattern. -/
theorem find?_eq (h : Mirrors format N t db entries) (hshape : Shape.ofPattern? q = some shape)
    (hnodes : q.nodes ⊆ N) (hk : key? format t shape q = some k) :
    db.find? (.ofShape shape) k = entries[q]?.map record := by
  rcases hq : entries[q]? with _ | ls
  · rcases hfind : db.find? (.ofShape shape) k with _ | v
    · rfl
    obtain ⟨q', ls, shape', hq', hshape', hspace, hk'⟩ := h.rows hfind
    obtain ⟨_, _, _, hnodes', -⟩ := h.known hq'
    obtain rfl := eq_of_key? hsuits ht hfits hnodes hnodes' hshape hshape' hspace.symm hk hk'
    rw [hq] at hq'
    cases hq'
  · obtain ⟨shape', k', hshape', -, -, hk', hfind⟩ := h.known hq
    rw [hshape] at hshape'
    cases hshape'
    rw [hk] at hk'
    cases hk'
    exact hfind

/-- A mirror stays one when an entry is written on both sides. -/
theorem put (h : Mirrors format N t db entries) (hshape : Shape.ofPattern? q = some shape)
    (hnodes : q.nodes ⊆ N) (hsmall : Small ls) (hk : key? format t shape q = some k) :
    Mirrors format N t (db.put .overwrite ⟨.ofShape shape, k, record ls⟩)
      (entries.insert q ls) where
  known {q' ls'} hq' := by
    rw [MemoryStore.getElem?_insert_entries] at hq'
    by_cases hqq : q = q'
    · subst hqq
      rw [if_pos rfl] at hq'
      cases hq'
      refine ⟨shape, k, hshape, hnodes, hsmall, hk, ?_⟩
      rw [Database.find?_put, if_pos ⟨rfl, rfl⟩]
      rfl
    · rw [if_neg hqq] at hq'
      obtain ⟨shape', k', hshape', hnodes', hsmall', hk', hfind⟩ := h.known hq'
      refine ⟨shape', k', hshape', hnodes', hsmall', hk', ?_⟩
      -- A key that is written over would be the key of both patterns.
      have hne : ¬ (Keyspace.ofShape shape = .ofShape shape' ∧ k = k') := by
        rintro ⟨hspace, rfl⟩
        exact hqq (eq_of_key? hsuits ht hfits hnodes hnodes' hshape hshape' hspace hk hk')
      rw [Database.find?_put, if_neg hne, hfind]
  rows {space k' v} hfind := by
    rw [Database.find?_put] at hfind
    by_cases hkey : Keyspace.ofShape shape = space ∧ k = k'
    · obtain ⟨rfl, rfl⟩ := hkey
      have hq : (entries.insert q ls)[q]? = some ls := by
        rw [MemoryStore.getElem?_insert_entries, if_pos rfl]
      exact ⟨q, ls, shape, hq, hshape, rfl, hk⟩
    · rw [if_neg hkey] at hfind
      obtain ⟨q', ls', shape', hq', hshape', hspace, hk'⟩ := h.rows hfind
      refine ⟨q', if q = q' then ls else ls', shape', ?_, hshape', hspace, hk'⟩
      rw [MemoryStore.getElem?_insert_entries, hq']
      split <;> rfl

end Mirrors

/-- A store that mirrors a store in memory with entries for certain nodes. -/
structure MirrorOf (dir : String) (options : StoreOptions) (N : List Node) (m : MemoryStore)
    (s : PersistentStore) : Prop where
  /-- The store is coherent. -/
  coherent : s.Coherent dir options
  /-- The store is open. -/
  closed_eq : s.closed = false
  /-- The numbers are those of certain nodes. -/
  within : s.table.Within N
  /-- Both stores have seen a wildcard, or none. -/
  patternsLoaded_eq : s.patternsLoaded = m.patternsLoaded
  /-- The database holds the entries. -/
  mirrors : Mirrors options.format N s.table s.db m.entries

variable {dir : String} {options : StoreOptions} {m : MemoryStore} {s : PersistentStore}
  {batch : List Change}

theorem mirrorOf_fresh (dir : String) (options : StoreOptions) (N : List Node) :
    MirrorOf dir options N {} (fresh dir options) where
  coherent := coherent_fresh dir options
  closed_eq := rfl
  within := List.nil_subset N
  patternsLoaded_eq := rfl
  mirrors := {
    known := fun h => by simp at h
    rows := fun {space k v} h => by
      have hnone : (fresh dir options).db.find? space k = none := by cases space <;> rfl
      rw [hnone] at h
      cases h }

/-! ### Lookups -/

/-- How the answer of a mirror to a lookup follows from that of the store in memory: there may be no
room for a key; both refuse the lookup; or the labels come back as they were stored. -/
inductive Follows (capacity : Nat) :
    Except Error (List Label) → Except Error (List Label) → Prop where
  /-- There is no room for a key. -/
  | overflows {e : Error} {r : Except Error (List Label)} (h : Overflows capacity e) :
    Follows capacity (.error e) r
  /-- Both stores refuse the lookup. -/
  | invalid (v : Violation) : Follows capacity (.error (.invalid v)) (.error (.invalid v))
  /-- There are labels, or none. -/
  | found (ls : List Label) : Follows capacity (.ok (stored ls)) (.ok ls)

theorem isEmpty_stored (ls : List Label) : (stored ls).isEmpty = ls.isEmpty := by
  cases ls with
  | nil => rfl
  | cons l ls => rw [LabelList.stored_cons]; rfl

theorem follows_firstAnswer {capacity : Nat}
    {probe probe' : Shape → Triple → ExceptT Error Id (List Label)} {q : Triple}
    (h : ∀ shape : Shape,
      Follows capacity (probe shape (shape.project q)).run (probe' shape (shape.project q)).run) :
    ∀ shapes, Follows capacity (firstAnswer probe q shapes).run (firstAnswer probe' q shapes).run
  | [] => .found []
  | shape :: shapes => by
    have hrest := follows_firstAnswer h shapes
    have hhead := h shape
    rw [run_firstAnswer_cons, run_firstAnswer_cons]
    generalize (probe shape (shape.project q)).run = r at hhead
    generalize (probe' shape (shape.project q)).run = r' at hhead
    cases hhead with
    | overflows hoverflow => exact .overflows hoverflow
    | invalid v => exact .invalid v
    | found ls =>
      dsimp only
      rw [isEmpty_stored]
      split
      · exact hrest
      · exact .found ls

namespace MirrorOf

variable (hsuits : options.format.Suits N)

include hsuits

/-- What a mirror has recorded for a pattern. -/
theorem recorded (h : MirrorOf dir options N m s) {key : Triple}
    (hshape : Shape.ofPattern? key = some shape) (hkey : key.nodes ⊆ N) :
    Follows options.bufferCapacity (s.recorded shape key) (.ok (m.entries.getD key [])) := by
  obtain ⟨known, k, hwrites, hk⟩ := writes_lookupKey (E := fun _ => False) h.coherent.grown
    h.coherent.fits (hsuits.writable.mono hkey) shape
  unfold PersistentStore.recorded
  rw [h.coherent.options_eq]
  rcases encoded_of_writes hwrites options.bufferCapacity with
    ⟨e, last, hrun, ⟨-, hoverflow⟩ | himpossible⟩ | ⟨-, hrun⟩
  · rw [hrun]
    exact .overflows hoverflow
  · exact himpossible.elim
  rw [hrun, Std.ExtTreeMap.getD_eq_getD_getElem?]
  cases known with
  | false =>
    -- A pattern without a key has not been written.
    rcases hq : m.entries[key]? with _ | ls
    · exact .found []
    obtain ⟨shape', k', hshape', -, -, hk', -⟩ := h.mirrors.known hq
    rw [hshape] at hshape'
    cases hshape'
    rw [hk] at hk'
    cases hk'
  | true =>
    have hfind := h.mirrors.find?_eq hsuits h.coherent.grown h.coherent.fits hshape hkey hk
    dsimp only
    rw [hfind]
    rcases hq : m.entries[key]? with _ | ls
    · exact .found []
    obtain ⟨-, -, -, -, hsmall, -⟩ := h.mirrors.known hq
    show Follows _ (LabelList.decode (record ls)) (.ok ls)
    rw [LabelList.decode_record hsmall]
    exact .found ls

/-- **The labels of a triple are those that the store in memory gives**, as they come back from a
store, unless there is no room for a key. -/
theorem answer (h : MirrorOf dir options N m s) (hany : .any ∈ N) {t : Triple}
    (ht : t.canonical.nodes ⊆ N) :
    Follows options.bufferCapacity (s.answer t.canonical) (m.lookup t) := by
  unfold PersistentStore.answer MemoryStore.lookup resolve
  rw [h.patternsLoaded_eq]
  by_cases hconcrete : t.canonical.isConcrete = true
  · rw [if_pos hconcrete, if_pos hconcrete]
    refine follows_firstAnswer (fun shape => ?_) _
    have hnodes : (shape.project t.canonical).nodes ⊆ N :=
      fun n hn => List.cons_subset.2 ⟨hany, ht⟩ (shape.nodes_project_subset t.canonical hn)
    exact h.recorded hsuits (Shape.ofPattern?_project hconcrete shape) hnodes
  · rw [if_neg hconcrete, if_neg hconcrete]
    exact .invalid _

end MirrorOf

/-! ### Batches -/

/-- Whether a failure is for want of room in a buffer of a given capacity, or of numbers when there
are more than can be written. -/
def Refuses (capacity count : Nat) (e : Error) : Prop :=
  Overflows capacity e ∨ ByNodeId.OutOfRange count e

theorem change_add (hshape : Shape.ofPattern? q = some shape) (m : MemoryStore) (ls : List Label) :
    m.change (.add q ls) = .ok {
      entries := m.entries.insert q.canonical ls
      patternsLoaded := m.patternsLoaded || shape.hasWildcard } := by
  rw [MemoryStore.change, Shape.ofPattern_eq_ok.2 hshape]
  rfl

section Batches

variable (hsuits : options.format.Suits N)

include hsuits

/-- The entry of a legal addition is encoded, unless there is no room for it. -/
theorem run_entryOf (ht : NodeTable.empty.Extends t) (hwithin : t.Within N)
    (hshape : Shape.ofPattern? q = some shape) (hnodes : q.canonical.nodes ⊆ N)
    (hsmall : Small ls) : (∃ e last, (entryOf options (.add q ls)).run.run t = (.error e, last) ∧
        Refuses options.bufferCapacity N.length e) ∨
      ∃ t' k, (entryOf options (.add q ls)).run.run t
          = (.ok (shape, ⟨.ofShape shape, k, record ls⟩), t') ∧
        t'.Within N ∧ key? options.format t' shape q.canonical = some k := by
  obtain ⟨t', k, hext, hwithin', hk, hwrites⟩ := stores_key ht hwithin
    (hsuits.writable.mono hnodes) hnodes shape
  have hpattern : (liftM (Shape.ofPattern q.canonical) : ExceptT Error (StateM NodeTable)
      Shape).run.run t = (.ok shape, t) := by
    rw [Shape.ofPattern_eq_ok.2 ((Shape.ofPattern?_canonical q).trans hshape)]
    rfl
  unfold entryOf
  rw [run_bind_ok hpattern]
  rcases encoded_of_writes hwrites options.bufferCapacity with
    ⟨e, last, hrun, he⟩ | ⟨-, hrun⟩
  · rw [run_bind_error hrun]
    have hsize := hwithin'.size_le (ht.trans hext)
    exact .inl ⟨e, last, rfl, he.imp And.right fun h => h.mono hsize⟩
  rw [run_bind_ok hrun]
  have hlabels := LabelList.writes_encode (E := fun _ => False) hsmall t'
  rcases encoded_of_writes hlabels options.bufferCapacity with
    ⟨e, last, hrun', ⟨-, he⟩ | himpossible⟩ | ⟨-, hrun'⟩
  · rw [run_bind_error hrun']
    exact .inl ⟨e, last, rfl, .inl he⟩
  · exact himpossible.elim
  · rw [run_bind_ok hrun']
    exact .inr ⟨t', k, rfl, hwithin', hk⟩

/-- The entries of a batch are encoded so that writing them keeps a mirror a mirror, unless there is
no room for them. -/
theorem run_entriesOf : ∀ {batch : List Change} {t : NodeTable} {db : Database} {m : MemoryStore},
    (∀ c ∈ batch, c.Legal N) → NodeTable.empty.Extends t → t.Fits → t.Within N →
      Mirrors options.format N t db m.entries →
    (∃ e last, (entriesOf options batch).run.run t = (.error e, last) ∧
        Refuses options.bufferCapacity N.length e) ∨
      ∃ entries t' m', (entriesOf options batch).run.run t = (.ok entries, t') ∧ t'.Within N ∧
        m.apply batch = (.ok (), m') ∧
        Mirrors options.format N t' (db.putAll .overwrite (entries.map Prod.snd)) m'.entries ∧
        m'.patternsLoaded = (m.patternsLoaded || entries.any (·.1.hasWildcard))
  | [], t, db, m, _, _, _, hwithin, h => by
    refine .inr ⟨[], t, m, rfl, hwithin, rfl, h, ?_⟩
    rw [List.any_nil, Bool.or_false]
  | .remove q :: batch, _, _, _, hlegal, _, _, _, _ => (hlegal _ List.mem_cons_self).elim
  | .add q ls :: batch, t, db, m, hlegal, ht, hfits, hwithin, h => by
    obtain ⟨⟨shape, hshape⟩, hnodes, hsmall⟩ := hlegal _ List.mem_cons_self
    have hgrows := grows_entryOf options (.add q ls)
    have hext := hgrows.extends_table t
    rcases run_entryOf hsuits ht hwithin hshape hnodes hsmall with
      ⟨e, last, hrun, he⟩ | ⟨t₁, k, hrun, hwithin₁, hk⟩
    · refine .inl ⟨e, last, ?_, he⟩
      rw [entriesOf, run_bind_error hrun]
    rw [hrun] at hext
    have hfits₁ : t₁.Fits := hgrows.fits hrun hfits
    have ht₁ : NodeTable.empty.Extends t₁ := ht.trans hext
    have hshape' : Shape.ofPattern? q.canonical = some shape :=
      (Shape.ofPattern?_canonical q).trans hshape
    have hput := (h.mono hext).put hsuits ht₁ hfits₁ hshape' hnodes hsmall hk
    rw [entriesOf, run_bind_ok hrun, MemoryStore.apply, change_add hshape]
    rcases run_entriesOf
      (m := ⟨m.entries.insert q.canonical ls, m.patternsLoaded || shape.hasWildcard⟩)
      (fun c hc => hlegal c (List.mem_cons_of_mem _ hc)) ht₁ hfits₁ hwithin₁ hput with
      ⟨e, last, hrest, he⟩ | ⟨entries, t₂, m', hrest, hwithin₂, happly, hmirrors, hloaded⟩
    · rw [run_bind_error hrest]
      exact .inl ⟨e, last, rfl, he⟩
    · rw [run_bind_ok hrest]
      refine .inr ⟨_, t₂, m', rfl, hwithin₂, happly, hmirrors, ?_⟩
      rw [hloaded, List.any_cons, Bool.or_assoc]

/-- **A mirror stays one when a batch is applied on both sides.** The persistent store refuses it
only for want of room or of numbers. -/
theorem MirrorOf.written (h : MirrorOf dir options N m s) (hmode : options.mode = .overwrite)
    (hlegal : ∀ c ∈ batch, c.Legal N) :
    (∃ e, s.written batch = .error e ∧ Refuses options.bufferCapacity N.length e) ∨
      ∃ s' m', s.written batch = .ok s' ∧ m.apply batch = (.ok (), m') ∧
        MirrorOf dir options N m' s' := by
  obtain rfl := h.coherent.options_eq
  rcases run_entriesOf hsuits hlegal h.coherent.grown h.coherent.fits h.within h.mirrors with
    ⟨e, last, hrun, he⟩ | ⟨entries, t', m', hrun, hwithin, happly, hmirrors, hloaded⟩
  · refine .inl ⟨e, ?_, he⟩
    rw [PersistentStore.written, if_neg (Bool.eq_false_iff.1 h.closed_eq), hrun]
  obtain ⟨nodes, hwritten⟩ := h.coherent.written_eq h.closed_eq hrun
  refine .inr ⟨_, m', hwritten, happly, ?_⟩
  exact {
    coherent := h.coherent.written hwritten
    closed_eq := h.closed_eq
    within := hwithin
    patternsLoaded_eq := by
      rw [hloaded, ← h.patternsLoaded_eq]
      rfl
    mirrors := hmirrors.congr fun space k => by
      rw [← hmode]
      exact find?_writtenDb s entries nodes space k }

end Batches

end PersistentStore

end Clearance
