import Clearance.Proofs.PersistentStore.Contents

/-!
# Adding labels again

A store that merges appends what is added to the row of the pattern, even labels that the pattern
has already. The row gets longer then, but what is read from it stays the same, since of repeated
labels only the first counts. The nodes of the pattern have their numbers, so that none are given;
and if the pattern has wildcards, they are known. So nothing that is looked up changes, not even the
failures.

## Main definitions

* `Clearance.Repeats` — changes that add nothing new.
* `Clearance.PersistentStore.ReadsAlike` — stores from which the same is read.

## Main results

* `Clearance.merged_of_repeats` — what is read back after such a change.
* `Clearance.PersistentStore.ReadsAlike.answer_eq` — lookups.
* `Clearance.PersistentStore.Contains.readsAlike_of_written` — such a change.
-/

namespace Clearance

open LabelList (stored Small)

/-! ### Changes that add nothing new -/

/-- Whether a change is about a pattern for which lists were added, and adds only labels that have
been merged into its list. -/
def Repeats (cs : List Change) (c : Change) : Prop :=
  added cs c.pattern.canonical ≠ [] ∧
    ∀ l ∈ c.labels, l.asUtf8 ∈ WriteMode.merge.merged cs c.pattern.canonical

theorem stored_flatten_concat {lss : List (List Label)} {ls : List Label}
    (h : ∀ l ∈ ls, l.asUtf8 ∈ stored lss.flatten) :
    stored (lss ++ [ls]).flatten = stored lss.flatten := by
  have hnew : (ls.map Label.asUtf8).removeAll (lss.flatten.map Label.asUtf8) = [] := by
    rw [List.removeAll, List.filter_eq_nil_iff]
    intro l hl
    obtain ⟨l', hl', rfl⟩ := List.mem_map.1 hl
    have hmem : l'.asUtf8 ∈ lss.flatten.map Label.asUtf8 := List.mem_eraseDups.1 (h l' hl')
    rw [List.elem_eq_true_of_mem hmem]
    decide
  rw [stored, List.flatten_append, List.flatten_singleton, List.map_append,
    List.eraseDups_append, hnew, List.eraseDups_nil, List.append_nil, stored]

variable {cs : List Change} {c c' : Change}

/-- **What is read back stays** when labels are added again. -/
theorem merged_of_repeats (h : Repeats cs c) (hadd : c = .add c.pattern c.labels) (q : Triple) :
    WriteMode.merge.merged (cs ++ [c]) q = WriteMode.merge.merged cs q := by
  rw [WriteMode.merged, hadd, added_concat]
  split
  · next hq =>
    subst hq
    exact stored_flatten_concat h.2
  · rfl

/-- What adds nothing new adds nothing new later. -/
theorem Repeats.concat (h : Repeats cs c) (hadd : c = .add c.pattern c.labels)
    (h' : Repeats cs c') : Repeats (cs ++ [c]) c' := by
  refine ⟨?_, fun l hl => ?_⟩
  · rw [hadd, added_concat]
    split
    · exact List.append_ne_nil_of_right_ne_nil _ (List.cons_ne_nil _ _)
    · exact h'.1
  · rw [merged_of_repeats h hadd]
    exact h'.2 l hl

namespace PersistentStore

open KeyFormat NodeTable

variable {dir : String} {options : StoreOptions} {N : List Node} {s s' s'' : PersistentStore}

/-! ### Stores from which the same is read -/

/-- Two stores with the same numbers and the same mark for wildcards, whose rows give the same
lists. -/
structure ReadsAlike (s s' : PersistentStore) : Prop where
  /-- The options are the same. -/
  options_eq : s'.options = s.options
  /-- The numbers are the same. -/
  table_eq : s'.table = s.table
  /-- The mark for wildcards is the same. -/
  loaded_eq : s'.patternsLoaded = s.patternsLoaded
  /-- The rows give the same lists. -/
  lists (space : Keyspace) (k : Bytes) :
    (s'.db.find? space k).map LabelList.decode = (s.db.find? space k).map LabelList.decode

namespace ReadsAlike

/-- Stores that would be the same after a restart. -/
theorem of_reattached_eq (h : s'.reattached = s.reattached) : ReadsAlike s s' where
  options_eq := (congrArg PersistentStore.options h :)
  table_eq := (congrArg PersistentStore.table h :)
  loaded_eq := (congrArg PersistentStore.patternsLoaded h :)
  lists space k := by
    have hdb : s'.db = s.db := (congrArg PersistentStore.db h :)
    rw [hdb]

theorem trans (h : ReadsAlike s s') (h' : ReadsAlike s' s'') : ReadsAlike s s'' where
  options_eq := h'.options_eq.trans h.options_eq
  table_eq := h'.table_eq.trans h.table_eq
  loaded_eq := h'.loaded_eq.trans h.loaded_eq
  lists space k := (h'.lists space k).trans (h.lists space k)

variable (h : ReadsAlike s s')

include h

theorem recorded_eq (shape : Shape) (key : Triple) :
    s'.recorded shape key = s.recorded shape key := by
  unfold recorded
  rw [h.options_eq, h.table_eq]
  split
  · rfl
  · rfl
  · next bytes _ =>
    have hlist := h.lists (.ofShape shape) bytes
    rcases hfind : s.db.find? (.ofShape shape) bytes with _ | v
    · rw [hfind, Option.map_none, Option.map_eq_none_iff] at hlist
      rw [hlist]
    · rw [hfind, Option.map_some, Option.map_eq_some_iff] at hlist
      obtain ⟨v', hv', hdecode⟩ := hlist
      rw [hv']
      exact hdecode

/-- **Lookups** give the same labels, or fail alike. -/
theorem answer_eq (t : Triple) : s'.answer t = s.answer t := by
  have hrecorded : s'.recorded = s.recorded := funext fun shape => funext (h.recorded_eq shape)
  rw [answer, answer, hrecorded, h.loaded_eq]

end ReadsAlike

/-! ### Writing labels again -/

/-- The entry of a pattern that has a key gives no numbers. -/
theorem table_of_run_entryOf {t t' : NodeTable} {e : Shape × Put} {shape : Shape} {k : Bytes}
    (ht : empty.Extends t) (hfits : t.Fits)
    (hshape : Shape.ofPattern? c.pattern.canonical = some shape)
    (hwritable : options.format.Writable c.pattern.canonical.nodes)
    (hk : key? options.format t shape c.pattern.canonical = some k)
    (hrun : (entryOf options c).run.run t = (.ok e, t')) : t' = t := by
  cases c with
  | remove pattern => cases hrun
  | add pattern labels =>
    have hpattern : (liftM (Shape.ofPattern pattern.canonical) : ExceptT Error (StateM NodeTable)
        Shape).run.run t = (.ok shape, t) := by
      rw [show Shape.ofPattern pattern.canonical = .ok shape from Shape.ofPattern_eq_ok.2 hshape]
      rfl
    rw [entryOf, run_bind_ok hpattern] at hrun
    obtain ⟨key, t₁, hkey, hrun⟩ := run_bind_eq_ok hrun
    obtain ⟨value, t₂, hvalue, hrun⟩ := run_bind_eq_ok hrun
    cases hrun
    have hwrites := writes_knownKey (E := fun _ => False) ht hfits hwritable hk .store
    have hkept : t₁ = t := by
      rcases encoded_of_writes hwrites options.bufferCapacity with ⟨e, last, herror, -⟩ | ⟨-, hok⟩
      · cases herror.symm.trans hkey
      · cases hok.symm.trans hkey
        rfl
    have hencode : (LabelList.encode labels : EncodeM NodeTable Unit).Grows False :=
      LabelList.grows_encode labels
    have hlabels := (grows_encoded hencode options.bufferCapacity).table_eq id t₁
    rw [hvalue] at hlabels
    exact hlabels.trans hkept

/-- A change that is written is an addition. -/
theorem change_eq_of_written (ht : empty.Extends s.table) (hwritten : s.written [c] = .ok s') :
    c = .add c.pattern c.labels := by
  obtain ⟨e, hentry, -⟩ := exists_put_of_written hwritten
  exact (isPutOf_of_run_entryOf ht hentry).change_eq

/-- The nodes of patterns that were added are among those of the store. -/
theorem Contains.nodes_subset (h : Contains N cs s) {q : Triple} (hq : added cs q ≠ []) :
    q.nodes ⊆ N := by
  obtain ⟨ls, hls⟩ := List.exists_mem_of_ne_nil _ hq
  obtain ⟨pattern, hmem, rfl⟩ := mem_added hls
  obtain ⟨e, -, hnodes, -⟩ := h.filed hmem
  exact hnodes

/-- **To add labels again changes nothing** of what can be read. -/
theorem Contains.readsAlike_of_written (h : Contains N cs s) (hcoherent : s.Coherent dir options)
    (hmode : s.options.mode = .merge) (hc : Repeats cs c) (hwritten : s.written [c] = .ok s') :
    ReadsAlike s s' := by
  obtain ⟨e, hentry, hoptions, hloaded, hfind⟩ := exists_put_of_written hwritten
  have hput := isPutOf_of_run_entryOf hcoherent.grown hentry
  obtain ⟨ls, hls⟩ := List.exists_mem_of_ne_nil _ hc.1
  obtain ⟨pattern, hmem, hpattern⟩ := mem_added hls
  obtain ⟨e₀, hput₀, -, hwild₀, hfind₀⟩ := h.filed hmem
  change pattern.canonical = c.pattern.canonical at hpattern
  have hentry₀ : IsEntryOf s.options.format s.table e₀.2.space e₀.2.key c.pattern.canonical e₀.1 :=
    hpattern ▸ hput₀.entry
  have hwritable : s.options.format.Writable c.pattern.canonical.nodes := hpattern ▸ hput₀.writable
  have htable : s'.table = s.table := table_of_run_entryOf hcoherent.grown hcoherent.fits
    hentry₀.shape_eq hwritable hentry₀.key_eq hentry
  -- The row of the change is the row of the pattern.
  rw [htable] at hput
  obtain ⟨hspace, hkey⟩ := hentry₀.row_eq hput.entry
  have hshape : e₀.1 = e.1 := Option.some.inj (hentry₀.shape_eq.symm.trans hput.entry.shape_eq)
  refine ⟨hoptions, htable, ?_, fun space k => ?_⟩
  · rw [hloaded]
    cases hcard : e.1.hasWildcard with
    | false => rw [Bool.or_false]
    | true => rw [hwild₀ (hshape ▸ hcard), Bool.true_or]
  · rw [hfind, Database.find?_put, hmode]
    split
    · next hrow =>
      obtain ⟨rfl, rfl⟩ := hrow
      have hvalue : s.db.find? e.2.space e.2.key
          = some (WriteMode.merge.value (added cs c.pattern.canonical)) := by
        rw [← hspace, ← hkey, hfind₀, hmode, ← hpattern]
        rfl
      have hcombine := WriteMode.merge.combine_value (added cs c.pattern.canonical) c.labels
      rw [if_neg hc.1] at hcombine
      have hsmall : ∀ ls ∈ added cs c.pattern.canonical ++ [c.labels], Small ls :=
        List.forall_mem_append.2
          ⟨fun ls hls => h.small_of_mem_added hls, List.forall_mem_singleton.2 hput.small⟩
      rw [hvalue, hput.value_eq, hcombine, Option.map_some, Option.map_some,
        WriteMode.decode_value hsmall, WriteMode.decode_value fun ls hls =>
          h.small_of_mem_added hls]
      exact congrArg (fun ls => some (Except.ok ls)) (stored_flatten_concat hc.2)
    · rfl

end PersistentStore

end Clearance
