import Clearance.Proofs.PersistentStore.Rows

/-!
# The contents of a persistent store

A database that overwrites has, under the key of a pattern, the record of the list of labels that
was added last; one that merges has the records of all lists, one after the other. Whatever the
format of the keys, this tells the lists of every pattern, as long as digests do not collide: keys
tell patterns apart, and records are read back one by one. A lookup that gives labels gives those of
the first shape that has any, and it gives them if there is room for the keys.

## Main definitions

* `Clearance.added` — the lists that were added for a pattern.
* `Clearance.WriteMode.kept`, `Clearance.WriteMode.merged` — what is kept of them, and read back.
* `Clearance.PersistentStore.Contains` — stores that contain what was added, and nothing else.
* `Clearance.PersistentStore.labelsFor?` — what is recorded for a pattern.
* `Clearance.PersistentStore.HasRoom` — triples whose keys fit the buffer.

## Main results

* `Clearance.PersistentStore.Contains.written` — one change.
* `Clearance.PersistentStore.Contains.labelsFor?_eq` — what is recorded for patterns.
* `Clearance.PersistentStore.Contains.answer_eq`, `Clearance.PersistentStore.Contains.eq_of_answer`
  — lookups.
-/

namespace Clearance

open LabelList (record stored Small)

/-! ### What is added -/

/-- The lists of labels that changes have added for a canonical pattern, in order. -/
def added (cs : List Change) (q : Triple) : List (List Label) :=
  cs.filterMap fun c => if c.pattern.canonical = q then c.outcome else none

theorem added_concat (cs : List Change) (q pattern : Triple) (ls : List Label) :
    added (cs ++ [.add pattern ls]) q
      = if pattern.canonical = q then added cs q ++ [ls] else added cs q := by
  have hone : added [.add pattern ls] q = if pattern.canonical = q then [ls] else [] := by
    by_cases hq : pattern.canonical = q
    · simp [added, Change.pattern, Change.outcome, hq]
    · simp [added, Change.pattern, hq]
  have happend : added (cs ++ [.add pattern ls]) q = added cs q ++ added [.add pattern ls] q :=
    List.filterMap_append
  rw [happend, hone]
  split
  · rfl
  · exact List.append_nil _

theorem mem_added {cs : List Change} {q : Triple} {ls : List Label} (h : ls ∈ added cs q) :
    ∃ pattern, .add pattern ls ∈ cs ∧ pattern.canonical = q := by
  obtain ⟨c, hc, hls⟩ := List.mem_filterMap.1 h
  split at hls
  · next hq =>
    cases c with
    | add pattern labels =>
      cases hls
      exact ⟨pattern, hc, hq⟩
    | remove pattern => cases hls
  · cases hls

theorem mem_added_of_add_mem {cs : List Change} {pattern : Triple} {ls : List Label}
    (h : .add pattern ls ∈ cs) : ls ∈ added cs pattern.canonical :=
  List.mem_filterMap.2 ⟨_, h, if_pos rfl⟩

/-- The lists that are kept of those that were added. -/
def WriteMode.kept (mode : WriteMode) (lss : List (List Label)) : List (List Label) :=
  match mode with
  | .overwrite => lss.getLast?.toList
  | .merge => lss

/-- The labels that are read back for a canonical pattern after some changes: those of the lists
that are kept, one list after the other, as UTF-8, each label at its first place only. -/
def WriteMode.merged (mode : WriteMode) (cs : List Change) (q : Triple) : List Label :=
  stored (mode.kept (added cs q)).flatten

theorem WriteMode.merged_of_added_eq_nil {mode : WriteMode} {cs : List Change} {q : Triple}
    (h : added cs q = []) : mode.merged cs q = [] := by
  rw [merged, h]
  cases mode <;> rfl

theorem WriteMode.mem_of_mem_kept {mode : WriteMode} {lss : List (List Label)} {ls : List Label}
    (h : ls ∈ mode.kept lss) : ls ∈ lss := by
  cases mode with
  | overwrite => exact List.mem_of_getLast? (Option.mem_toList.1 h)
  | merge => exact h

/-- The value that a database has for a pattern. -/
def WriteMode.value (mode : WriteMode) (lss : List (List Label)) : Bytes :=
  (mode.kept lss).flatMap record

/-- The labels that are read back from a value. -/
theorem WriteMode.decode_value {mode : WriteMode} {lss : List (List Label)}
    (h : ∀ ls ∈ lss, Small ls) :
    LabelList.decode (mode.value lss) = .ok (stored (mode.kept lss).flatten) := by
  have hkept : ∀ ls ∈ mode.kept lss, Small ls := fun ls hls => h ls (mem_of_mem_kept hls)
  rw [value, LabelList.decode_records hkept, stored, List.map_flatten, List.flatMap_def]

/-- The value after one more list. -/
theorem WriteMode.combine_value (mode : WriteMode) (lss : List (List Label)) (ls : List Label) :
    Database.combine mode (if lss = [] then none else some (mode.value lss)) (record ls)
      = mode.value (lss ++ [ls]) := by
  cases mode with
  | overwrite =>
    have hkept : WriteMode.overwrite.kept (lss ++ [ls]) = [ls] := by
      rw [kept, List.getLast?_concat]
      rfl
    have hvalue : WriteMode.overwrite.value (lss ++ [ls]) = record ls := by
      rw [value, hkept, List.flatMap_singleton]
    exact hvalue.symm
  | merge =>
    by_cases hlss : lss = []
    · subst hlss
      exact (List.flatMap_singleton ..).symm
    · rw [if_neg hlss, value, value, kept, kept, List.flatMap_append, List.flatMap_singleton]
      rfl

namespace PersistentStore

open KeyFormat NodeTable

variable {format : KeyFormat} {mode : WriteMode} {N : List Node} {t t' : NodeTable}
  {loaded loaded' : Bool}
  {db : Database} {cs : List Change} {c : Change} {e : Shape × Put} {space : Keyspace} {k : Bytes}
  {q q' : Triple} {shape shape' : Shape}

/-! ### Databases -/

/-- Keys tell patterns apart as long as digests do not collide. -/
theorem IsEntryOf.pattern_eq (h : IsEntryOf format t space k q shape)
    (h' : IsEntryOf format t space k q' shape') (hdistinct : format.Distinct N)
    (ht : empty.Extends t) (hfits : t.Fits) (hq : q.nodes ⊆ N) (hq' : q'.nodes ⊆ N)
    (hwritable : format.Writable q.nodes) (hwritable' : format.Writable q'.nodes) : q = q' := by
  have hsubset : q.nodes ++ q'.nodes ⊆ N := List.append_subset.2 ⟨hq, hq'⟩
  have hsuits : format.Suits (q.nodes ++ q'.nodes) :=
    (hdistinct.mono hsubset).suits fun hformat =>
      List.forall_mem_append.2 ⟨hwritable hformat, hwritable' hformat⟩
  exact eq_of_key? hsuits ht hfits (List.subset_append_left _ _) (List.subset_append_right _ _)
    h.shape_eq h'.shape_eq (h.space_eq.trans h'.space_eq.symm) h.key_eq h'.key_eq

/-- A pattern has one row. -/
theorem IsEntryOf.row_eq {space' : Keyspace} {k' : Bytes} (h : IsEntryOf format t space k q shape)
    (h' : IsEntryOf format t space' k' q shape') : space = space' ∧ k = k' := by
  obtain rfl : shape = shape' := Option.some.inj (h.shape_eq.symm.trans h'.shape_eq)
  exact ⟨h.space_eq.symm.trans h'.space_eq, Option.some.inj (h.key_eq.symm.trans h'.key_eq)⟩

/-- Whether a database contains what changes have added, and nothing else. All nodes of the patterns
are those of a list. -/
structure Holds (format : KeyFormat) (mode : WriteMode) (N : List Node) (t : NodeTable)
    (loaded : Bool) (db : Database) (cs : List Change) : Prop where
  /-- There is a row for every change. -/
  filed {c : Change} (hc : c ∈ cs) : ∃ e, IsPutOf format t c e ∧ c.pattern.canonical.nodes ⊆ N ∧
    (e.1.hasWildcard = true → loaded = true) ∧
    db.find? e.2.space e.2.key = some (mode.value (added cs c.pattern.canonical))
  /-- Every row is one for a change. -/
  rows {space : Keyspace} {k v : Bytes} (h : db.find? space k = some v) :
    ∃ c ∈ cs, ∃ shape, IsEntryOf format t space k c.pattern.canonical shape

namespace Holds

theorem mono (h : Holds format mode N t loaded db cs) (hext : t.Extends t')
    (hloaded : loaded = true → loaded' = true) : Holds format mode N t' loaded' db cs where
  filed hc := by
    obtain ⟨e, hput, hnodes, hwild, hfind⟩ := h.filed hc
    exact ⟨e, hput.mono hext, hnodes, fun hcard => hloaded (hwild hcard), hfind⟩
  rows hfind := by
    obtain ⟨c, hc, shape, hentry⟩ := h.rows hfind
    exact ⟨c, hc, shape, hentry.mono hext⟩

theorem congr {db' : Database} (h : Holds format mode N t loaded db cs)
    (hdb : ∀ space k, db'.find? space k = db.find? space k) :
    Holds format mode N t loaded db' cs where
  filed hc := by
    obtain ⟨e, hput, hnodes, hwild, hfind⟩ := h.filed hc
    exact ⟨e, hput, hnodes, hwild, (hdb _ _).trans hfind⟩
  rows hfind := h.rows ((hdb _ _).symm.trans hfind)

variable (h : Holds format mode N t loaded db cs) (hdistinct : format.Distinct N)
  (ht : empty.Extends t) (hfits : t.Fits)

include h hdistinct ht hfits

/-- **What the database has under the key of a pattern** are the records of the lists that were
added for the pattern. -/
theorem find?_eq (hentry : IsEntryOf format t space k q shape) (hq : q.nodes ⊆ N)
    (hwritable : format.Writable q.nodes) :
    db.find? space k = if added cs q = [] then none else some (mode.value (added cs q)) := by
  -- Keys tell patterns apart, so a row under the key of the pattern is a row of the pattern.
  have hsame {c : Change} (hc : c ∈ cs) {shape' : Shape}
      (hentry' : IsEntryOf format t space k c.pattern.canonical shape') :
      c.pattern.canonical = q := by
    obtain ⟨e, hput, hnodes, -⟩ := h.filed hc
    exact hentry'.pattern_eq hentry hdistinct ht hfits hnodes hq hput.writable hwritable
  cases hadded : added cs q with
  | nil =>
    rw [if_pos rfl]
    rcases hfind : db.find? space k with _ | v
    · rfl
    obtain ⟨c, hc, shape', hentry'⟩ := h.rows hfind
    obtain ⟨e, hput, -⟩ := h.filed hc
    have hmem : c.labels ∈ added cs c.pattern.canonical :=
      mem_added_of_add_mem (hput.change_eq ▸ hc)
    rw [hsame hc hentry', hadded] at hmem
    cases hmem
  | cons ls lss =>
    have hmem : ls ∈ added cs q := hadded ▸ List.mem_cons_self
    obtain ⟨pattern, hc, rfl⟩ := mem_added hmem
    obtain ⟨e, hput, -, -, hfind⟩ := h.filed hc
    obtain ⟨rfl, rfl⟩ := hput.entry.row_eq hentry
    rw [hfind, if_neg (List.cons_ne_nil ls lss), ← hadded]
    rfl

variable (hput : IsPutOf format t c e)

include hput

/-- What the database has under the key of a pattern after one more entry. -/
theorem find?_put_eq (hc : c.pattern.canonical.nodes ⊆ N)
    (hentry : IsEntryOf format t space k q shape)
    (hq : q.nodes ⊆ N) (hwritable : format.Writable q.nodes) :
    (db.put mode e.2).find? space k
      = if added (cs ++ [c]) q = [] then none else some (mode.value (added (cs ++ [c]) q)) := by
  rw [Database.find?_put, h.find?_eq hdistinct ht hfits hentry hq hwritable, hput.change_eq,
    added_concat]
  by_cases hpattern : c.pattern.canonical = q
  · subst hpattern
    rw [if_pos (hput.entry.row_eq hentry), if_pos rfl,
      if_neg (List.append_ne_nil_of_right_ne_nil _ (List.cons_ne_nil _ _)), hput.value_eq,
      mode.combine_value]
  · have hrow : ¬ (e.2.space = space ∧ e.2.key = k) := by
      rintro ⟨rfl, rfl⟩
      exact hpattern (hput.entry.pattern_eq hentry hdistinct ht hfits hc hq hput.writable hwritable)
    rw [if_neg hrow, if_neg hpattern]

/-- **One more entry.** -/
theorem put (hc : c.pattern.canonical.nodes ⊆ N) (hwild : e.1.hasWildcard = true → loaded = true) :
    Holds format mode N t loaded (db.put mode e.2) (cs ++ [c]) where
  filed {c'} hc' := by
    obtain ⟨e', hput', hnodes', hwild'⟩ : ∃ e', IsPutOf format t c' e' ∧
        c'.pattern.canonical.nodes ⊆ N ∧ (e'.1.hasWildcard = true → loaded = true) := by
      rcases List.mem_append.1 hc' with hold | hnew
      · obtain ⟨e', hput', hnodes', hwild', -⟩ := h.filed hold
        exact ⟨e', hput', hnodes', hwild'⟩
      · obtain rfl := List.mem_singleton.1 hnew
        exact ⟨e, hput, hc, hwild⟩
    have hmem : c'.labels ∈ added (cs ++ [c]) c'.pattern.canonical :=
      mem_added_of_add_mem (hput'.change_eq ▸ hc')
    refine ⟨e', hput', hnodes', hwild', ?_⟩
    rw [h.find?_put_eq hdistinct ht hfits hput hc hput'.entry hnodes' hput'.writable,
      if_neg (List.ne_nil_of_mem hmem)]
  rows {space k v} hfind := by
    rw [Database.find?_put] at hfind
    split at hfind
    · next hrow =>
      obtain ⟨rfl, rfl⟩ := hrow
      exact ⟨c, List.mem_append_right _ List.mem_cons_self, e.1, hput.entry⟩
    · obtain ⟨c', hc', shape', hentry'⟩ := h.rows hfind
      exact ⟨c', List.mem_append_left _ hc', shape', hentry'⟩

end Holds

/-! ### Stores -/

variable {dir : String} {options : StoreOptions} {s s' : PersistentStore} {ls : List Label}

/-- Whether a store contains what changes have added, and nothing else. -/
def Contains (N : List Node) (cs : List Change) (s : PersistentStore) : Prop :=
  Holds s.options.format s.options.mode N s.table s.patternsLoaded s.db cs

theorem contains_fresh (dir : String) (options : StoreOptions) (N : List Node) :
    Contains N [] (fresh dir options) where
  filed hc := nomatch hc
  rows {space k v} hfind := by
    have hnone : (fresh dir options).db.find? space k = none := by cases space <;> rfl
    rw [hnone] at hfind
    cases hfind

/-- What is recorded for a canonical pattern: the list that its row gives, if it has one. -/
def labelsFor? (s : PersistentStore) (q : Triple) : Option (Except Error (List Label)) := do
  let shape ← Shape.ofPattern? q
  let k ← key? s.options.format s.table shape q
  let value ← s.db.find? (.ofShape shape) k
  return LabelList.decode value

/-- Whether the keys fit the buffer that a lookup of a triple tries. -/
def HasRoom (s : PersistentStore) (t : Triple) : Prop :=
  ∀ shape ∈ probedShapes s.patternsLoaded, ∃ key, ((encoded s.options.bufferCapacity
    (encodeKey s.options.format shape (shape.project t) .lookup)).run.run s.table).1 = .ok key

/-- The entry of a change that is written. -/
theorem exists_put_of_written (hwritten : s.written [c] = .ok s') :
    ∃ e, (entryOf s.options c).run.run s.table = (.ok e, s'.table) ∧ s'.options = s.options ∧
      s'.patternsLoaded = (s.patternsLoaded || e.1.hasWildcard) ∧
      ∀ space k, s'.db.find? space k = (s.db.put s.options.mode e.2).find? space k := by
  obtain ⟨entries, hentries, hoptions, hloaded, hfind⟩ := find?_of_written hwritten
  obtain ⟨e, table, hentry, hrest⟩ := run_bind_eq_ok hentries
  obtain ⟨rest, table', hnil, hlast⟩ := run_bind_eq_ok hrest
  cases hnil
  cases hlast
  rw [List.any_cons, List.any_nil, Bool.or_false] at hloaded
  exact ⟨e, hentry, hoptions, hloaded, hfind⟩

namespace Contains

theorem small_of_mem_added (h : Contains N cs s) (hls : ls ∈ added cs q) : Small ls := by
  obtain ⟨pattern, hmem, -⟩ := mem_added hls
  obtain ⟨e, hput, -⟩ := h.filed hmem
  exact hput.small

/-- The labels of a value. -/
theorem decode_value (h : Contains N cs s) (q : Triple) :
    LabelList.decode (s.options.mode.value (added cs q)) = .ok (s.options.mode.merged cs q) :=
  WriteMode.decode_value fun _ hls => h.small_of_mem_added hls

/-- **What is recorded for a pattern** are the labels of the lists that were added for it. -/
theorem labelsFor?_eq (h : Contains N cs s) (hc : c ∈ cs) :
    s.labelsFor? c.pattern.canonical
      = some (.ok (s.options.mode.merged cs c.pattern.canonical)) := by
  obtain ⟨e, hput, -, -, hfind⟩ := h.filed hc
  simp [labelsFor?, hput.entry.shape_eq, hput.entry.key_eq, hput.entry.space_eq, hfind,
    h.decode_value]

/-- Without wildcards there are no labels for patterns with wildcards. -/
theorem merged_of_wildcard (h : Contains N cs s) (hloaded : s.patternsLoaded = false)
    (hshape : Shape.ofPattern? q = some shape) (hwild : shape.hasWildcard = true) :
    s.options.mode.merged cs q = [] := by
  rw [WriteMode.merged_of_added_eq_nil]
  cases hadded : added cs q with
  | nil => rfl
  | cons ls lss =>
    obtain ⟨pattern, hmem, rfl⟩ := mem_added (hadded ▸ List.mem_cons_self)
    obtain ⟨e, hput, -, hcard, -⟩ := h.filed hmem
    obtain rfl : e.1 = shape := Option.some.inj (hput.entry.shape_eq.symm.trans hshape)
    rw [hcard hwild] at hloaded
    cases hloaded

variable (h : Contains N cs s) (hcoherent : s.Coherent dir options)
  (hdistinct : s.options.format.Distinct N)

include h hcoherent hdistinct

/-- **A change that is written** is contained in the store then. -/
theorem written (hc : c.pattern.canonical.nodes ⊆ N) (hwritten : s.written [c] = .ok s') :
    Contains N (cs ++ [c]) s' := by
  have hcoherent' := hcoherent.written hwritten
  obtain ⟨e, hentry, hoptions, hloaded, hfind⟩ := exists_put_of_written hwritten
  have hext := (grows_entryOf s.options c).extends_table s.table
  rw [hentry] at hext
  have hput := isPutOf_of_run_entryOf hcoherent.grown hentry
  have hmarked (hmark : s.patternsLoaded = true) : s'.patternsLoaded = true := by
    rw [hloaded, hmark, Bool.true_or]
  have hwild (hcard : e.1.hasWildcard = true) : s'.patternsLoaded = true := by
    rw [hloaded, hcard, Bool.or_true]
  have hholds :=
    Holds.put (h.mono hext hmarked) hdistinct hcoherent'.grown hcoherent'.fits hput hc hwild
  rw [Contains, hoptions]
  exact hholds.congr hfind

/-- What is recorded for the pattern of a shape, unless its key cannot be written. -/
theorem recorded_cases (hshape : Shape.ofPattern? q = some shape) (hq : q.nodes ⊆ N) :
    (∃ e, ((encoded s.options.bufferCapacity (encodeKey s.options.format shape q .lookup)).run.run
        s.table).1 = .error e ∧ s.recorded shape q = .error e) ∨
      s.recorded shape q = .ok (s.options.mode.merged cs q) := by
  unfold recorded
  rcases hrun :
      (encoded s.options.bufferCapacity (encodeKey s.options.format shape q .lookup)).run.run
    s.table with ⟨e | ⟨known, bytes⟩, table⟩
  · exact .inl ⟨e, rfl, rfl⟩
  obtain ⟨sheet, hkey⟩ := exists_run_of_run_encoded hrun
  have hwritable := writable_of_run_encodeKey hshape hkey
  obtain ⟨known', k, hwrites, hk⟩ := writes_lookupKey (E := fun _ => False) hcoherent.grown
    hcoherent.fits hwritable shape
  have hfits := encoded_of_writes hwrites s.options.bufferCapacity
  rw [hrun] at hfits
  rcases hfits with ⟨e, last, herror, -⟩ | ⟨-, hok⟩
  · cases herror
  cases hok
  refine .inr ?_
  cases known with
  | false =>
    -- A pattern without a key has not been added.
    rw [WriteMode.merged_of_added_eq_nil]
    cases hadded : added cs q with
    | nil => rfl
    | cons ls lss =>
      obtain ⟨pattern, hmem, rfl⟩ := mem_added (hadded ▸ List.mem_cons_self)
      obtain ⟨e, hput, -⟩ := h.filed hmem
      have hkeyed := hput.entry.key_eq
      obtain rfl : e.1 = shape := Option.some.inj (hput.entry.shape_eq.symm.trans hshape)
      rw [show (Change.add pattern ls).pattern = pattern from rfl, hk] at hkeyed
      cases hkeyed
  | true =>
    have hentry : IsEntryOf s.options.format s.table (.ofShape shape) bytes q shape :=
      ⟨hshape, rfl, hk⟩
    have hfind := Holds.find?_eq h hdistinct hcoherent.grown hcoherent.fits hentry hq hwritable
    dsimp only
    rw [hfind]
    by_cases hadded : added cs q = []
    · rw [if_pos hadded, WriteMode.merged_of_added_eq_nil hadded]
    · rw [if_neg hadded]
      exact h.decode_value q

section Answer

variable (hany : .any ∈ N) (hq : q.nodes ⊆ N)

include hany hq

/-- What is recorded for the patterns that a triple matches, unless their keys cannot be written. -/
theorem recorded_project_cases (hconcrete : q.isConcrete = true) (shape : Shape) :
    (∃ e, ((encoded s.options.bufferCapacity (encodeKey s.options.format shape (shape.project q)
        .lookup)).run.run s.table).1 = .error e ∧ s.recorded shape (shape.project q) = .error e) ∨
      s.recorded shape (shape.project q) = .ok (s.options.mode.merged cs (shape.project q)) := by
  have hnodes : (shape.project q).nodes ⊆ N :=
    fun n hn => List.cons_subset.2 ⟨hany, hq⟩ (shape.nodes_project_subset q hn)
  exact h.recorded_cases hcoherent hdistinct (Shape.ofPattern?_project hconcrete shape) hnodes

/-- **A lookup finds the first shape that has labels**, if there is room for the keys. -/
theorem answer_eq (hconcrete : q.isConcrete = true) (hroom : s.HasRoom q) :
    s.answer q = .ok (firstNonempty (fun shape => s.options.mode.merged cs (shape.project q))
      Shape.byPriority) := by
  have hprobe : ∀ shape ∈ probedShapes s.patternsLoaded,
      (ExceptT.mk (m := Id) (s.recorded shape (shape.project q))).run
        = .ok (s.options.mode.merged cs (shape.project q)) := by
    intro shape hmem
    rcases h.recorded_project_cases hcoherent hdistinct hany hq hconcrete shape with
      ⟨e, herror, -⟩ | hok
    · obtain ⟨key, hkey⟩ := hroom shape hmem
      rw [hkey] at herror
      cases herror
    · exact hok
  refine run_resolve_eq_firstNonempty (fun hloaded shape hwild => ?_) hconcrete hprobe
  exact h.merged_of_wildcard hloaded (Shape.ofPattern?_project hconcrete shape) hwild

/-- **Labels that a lookup gives** are those of the first shape that has any. -/
theorem eq_of_answer (hls : s.answer q = .ok ls) :
    ls = firstNonempty
      (fun shape => s.options.mode.merged cs (shape.project q)) Shape.byPriority := by
  have hconcrete : q.isConcrete = true := by
    cases hq : q.isConcrete with
    | true => rfl
    | false =>
      rw [answer, resolve, if_neg (Bool.eq_false_iff.1 hq)] at hls
      cases hls
  refine eq_firstNonempty_of_run_resolve (fun hloaded shape hwild =>
    h.merged_of_wildcard hloaded (Shape.ofPattern?_project hconcrete shape) hwild)
    (fun shape found hfound => ?_) hls
  rcases h.recorded_project_cases hcoherent hdistinct hany hq hconcrete shape with
    ⟨e, -, herror⟩ | hok
  · cases herror.symm.trans hfound
  · exact Except.ok.inj (hfound.symm.trans hok)

end Answer

end Contains

end PersistentStore

end Clearance
