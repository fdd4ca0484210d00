import Clearance.NodeTable
import Clearance.Proofs.Running

/-!
# Growing tables of nodes

A table of nodes *grows* when numbers are given to nodes that had none: the new nodes stand behind
the old ones, and no number changes. Cutting a grown table back to its old size gives the old table,
and loading what was allocated since into the old table gives the grown one.

## Main definitions

* `Clearance.NodeTable.Extends` — tables that have grown from another.
* `Clearance.NodeTable.Fits` — tables with numbers that can be written.
* `Clearance.NodeTable.Within` — tables with numbers for certain nodes only.
* `Clearance.NodeTable.Grows` — computations that let a table grow.

## Main results

* `Clearance.NodeTable.extends_allocate` — allocating a number lets a table grow.
* `Clearance.NodeTable.Extends.truncate_eq` — a grown table can be cut back.
* `Clearance.NodeTable.Extends.load_allocatedSince` — a grown table can be loaded.
* `Clearance.NodeTable.Extends.nodeFor?_eq` — numbers stay.
* `Clearance.NodeTable.idFor?_eq_some_iff` — numbers and nodes belong together.
* `Clearance.NodeTable.Within.size_le` — no node has two numbers.
-/

namespace Clearance.NodeTable

variable {t t' t'' : NodeTable} {n : Node} {id mark : Nat}

/-- The second table is the first after numbers were given to some nodes that had none. -/
inductive Extends (t : NodeTable) : NodeTable → Prop where
  /-- No number was given. -/
  | refl : t.Extends t
  /-- The last number was given to a node. -/
  | push {t' : NodeTable} {n : Node} (h : t.Extends t') (hn : t'.idFor? n = none) :
    t.Extends (t'.push n)

/-- Whether all numbers of a table are signed words. -/
def Fits (t : NodeTable) : Prop := t.size < 1 <<< 63

@[simp]
theorem size_push (t : NodeTable) (n : Node) : (t.push n).size = t.size + 1 := Array.size_push n

theorem toList_push (t : NodeTable) (n : Node) : (t.push n).nodes.toList = t.nodes.toList ++ [n] :=
  Array.toList_push

theorem idFor?_push (t : NodeTable) (n m : Node) :
    (t.push n).idFor? m = if n = m then some (t.size + 1) else t.idFor? m := by
  simp only [push, idFor?, Std.ExtTreeMap.getElem?_insert, Std.LawfulEqCmp.compare_eq_iff_eq]

theorem idFor?_allocate (t : NodeTable) (n : Node) :
    (t.allocate n).2.idFor? n = some (t.allocate n).1 := by
  cases h : t.idFor? n with
  | some id => simp only [allocate, h]
  | none => simp only [allocate, h, idFor?_push, if_true]

theorem extends_allocate (t : NodeTable) (n : Node) : t.Extends (t.allocate n).2 := by
  cases h : t.idFor? n with
  | some id => simpa only [allocate, h] using Extends.refl
  | none => simpa only [allocate, h] using Extends.refl.push h

theorem size_allocate_le (t : NodeTable) (n : Node) : (t.allocate n).2.size ≤ t.size + 1 := by
  cases h : t.idFor? n with
  | some id => simp only [allocate, h, Nat.le_add_right]
  | none => simp only [allocate, h, size_push, Nat.le_refl]

/-- A number that was just allocated bounds the table. -/
theorem fits_allocate (ht : t.Fits) (hid : (t.allocate n).1 < 1 <<< 63) :
    (t.allocate n).2.Fits := by
  cases h : t.idFor? n with
  | some id => simpa only [allocate, h] using ht
  | none =>
    rw [allocate, h] at hid ⊢
    rw [Fits, size_push]
    exact hid

namespace Extends

theorem trans (h : t.Extends t') (h' : t'.Extends t'') : t.Extends t'' := by
  induction h' with
  | refl => exact h
  | push _ hn ih => exact ih.push hn

theorem size_le (h : t.Extends t') : t.size ≤ t'.size := by
  induction h with
  | refl => exact Nat.le_refl _
  | push _ _ ih =>
    rw [size_push]
    omega

/-- Numbers that were given stay. -/
theorem idFor?_eq (h : t.Extends t') (hid : t.idFor? n = some id) : t'.idFor? n = some id := by
  induction h with
  | refl => exact hid
  | push _ hm ih =>
    rw [idFor?_push, if_neg, ih]
    rintro rfl
    simp [hm] at ih

end Extends

/-! ### Cutting back -/

theorem getElem?_eraseAll (ids : Std.ExtTreeMap Node Nat) (ns : List Node) (n : Node) :
    (ns.foldl (fun ids n => ids.erase n) ids)[n]? = if n ∈ ns then none else ids[n]? := by
  induction ns generalizing ids with
  | nil => simp
  | cons m ns ih =>
    rw [List.foldl_cons, ih, Std.ExtTreeMap.getElem?_erase]
    by_cases hm : m = n
    · subst hm
      simp
    · simp [hm, Ne.symm hm]

/-- Forgetting a number that was just given. -/
theorem truncate_push (hn : t.idFor? n = none) (hmark : mark ≤ t.size) :
    (t.push n).truncate mark = t.truncate mark := by
  have hdrop : (t.push n).nodes.toList.drop mark = t.nodes.toList.drop mark ++ [n] := by
    rw [toList_push, List.drop_append_of_le_length hmark]
  have htake : (t.push n).nodes.take mark = t.nodes.take mark := by
    have hsize : mark ≤ t.nodes.size := hmark
    rw [push, Array.take_eq_extract, Array.extract_push, if_pos hsize, Array.take_eq_extract]
  have hids : ((t.nodes.toList.drop mark ++ [n]).foldl (fun ids n => ids.erase n) (t.push n).ids)
      = (t.nodes.toList.drop mark).foldl (fun ids n => ids.erase n) t.ids := by
    ext1 m
    rw [getElem?_eraseAll, getElem?_eraseAll]
    by_cases hm : n = m
    · subst hm
      have hnone : t.ids[n]? = none := hn
      simp [hnone]
    · have hpush : (t.push n).ids[m]? = t.ids[m]? := (idFor?_push t n m).trans (if_neg hm)
      simp [hpush, Ne.symm hm]
  simp only [truncate, hdrop, htake, hids]

theorem truncate_size (t : NodeTable) : t.truncate t.size = t := by
  have hdrop : t.nodes.toList.drop t.size = [] := List.drop_eq_nil_of_le (Nat.le_refl _)
  have htake : t.nodes.take t.size = t.nodes := by simp [size]
  rw [truncate, hdrop, htake]
  rfl

/-- Forgetting what a table has got since it had a certain size gives the table of that size. -/
theorem Extends.truncate_eq (h : t.Extends t') : t'.truncate t.size = t := by
  induction h with
  | refl => exact truncate_size t
  | push h hn ih => rw [truncate_push hn h.size_le, ih]

/-! ### Loading -/

theorem allocatedSince_size (t : NodeTable) : t.allocatedSince t.size = [] := by
  simp [allocatedSince, size]

theorem allocatedSince_push (hmark : mark ≤ t.size) :
    (t.push n).allocatedSince mark = t.allocatedSince mark ++ [(t.size + 1, n)] := by
  have hlast : min mark (t.size + 1) + 1 + (t.nodes.toList.drop mark).length = t.size + 1 := by
    rw [List.length_drop, Array.length_toList]
    change min mark (t.size + 1) + 1 + (t.size - mark) = t.size + 1
    omega
  have hfirst : min mark (t.size + 1) = min mark t.size := by omega
  rw [allocatedSince, toList_push, size_push, List.drop_append_of_le_length hmark,
    List.zipIdx_append, hlast, List.map_append, hfirst]
  rfl

theorem load_append {entries : List (Nat × Node)} (h : t.load entries = (.ok (), t'))
    (more : List (Nat × Node)) : t.load (entries ++ more) = t'.load more := by
  induction entries generalizing t with
  | nil =>
    cases h
    rfl
  | cons entry entries ih =>
    by_cases hid : entry.1 = t.size + 1
    · rw [load, if_pos hid] at h
      rw [List.cons_append, load, if_pos hid]
      exact ih h
    · rw [load, if_neg hid] at h
      cases h

/-- Loading what a table has got since it had a certain size into the table of that size. -/
theorem Extends.load_allocatedSince (h : t.Extends t') :
    t.load (t'.allocatedSince t.size) = (.ok (), t') := by
  induction h with
  | refl =>
    rw [allocatedSince_size]
    rfl
  | push h _ ih =>
    rw [allocatedSince_push h.size_le, load_append ih, load, if_pos rfl]
    rfl

/-! ### Numbers and nodes -/

theorem nodeFor?_push (t : NodeTable) (n : Node) (id : Nat) :
    (t.push n).nodeFor? id = if id = t.size + 1 then some n else t.nodeFor? id := by
  by_cases hid : id = 0
  · subst hid
    simp [nodeFor?]
  · have hpred : id - 1 = t.nodes.size ↔ id = t.size + 1 := by
      simp only [size]
      omega
    simp only [nodeFor?, if_neg hid, push, Array.getElem?_push, hpred]

theorem le_size_of_nodeFor? (h : t.nodeFor? id = some n) : 0 < id ∧ id ≤ t.size := by
  by_cases hid : id = 0
  · simp [nodeFor?, hid] at h
  · rw [nodeFor?, if_neg hid] at h
    have := (Array.getElem?_eq_some_iff.1 h).1
    simp only [size]
    omega

/-- The numbers are 1, 2, 3, … up to the size. -/
theorem exists_nodeFor?_iff : (∃ n, t.nodeFor? id = some n) ↔ 0 < id ∧ id ≤ t.size := by
  refine ⟨fun ⟨_, h⟩ => le_size_of_nodeFor? h, fun ⟨hpos, hle⟩ => ?_⟩
  have hlt : id - 1 < t.nodes.size := by
    simp only [size] at hle
    omega
  rw [nodeFor?, if_neg (by omega), Array.getElem?_eq_getElem hlt]
  exact ⟨_, rfl⟩

/-- Nodes that have numbers keep them. -/
theorem Extends.nodeFor?_eq (h : t.Extends t') (hid : t.nodeFor? id = some n) :
    t'.nodeFor? id = some n := by
  induction h with
  | refl => exact hid
  | push _ _ ih =>
    have hle := (le_size_of_nodeFor? ih).2
    rw [nodeFor?_push, if_neg (by omega), ih]

/-- When the next number is given to a node that has none, numbers and nodes still belong
together. -/
theorem idFor?_push_eq_some_iff {m : Node} (hm : t.idFor? m = none)
    (h : ∀ n id, t.idFor? n = some id ↔ t.nodeFor? id = some n) :
    (t.push m).idFor? n = some id ↔ (t.push m).nodeFor? id = some n := by
  rw [idFor?_push, nodeFor?_push]
  by_cases hn : m = n
  · subst hn
    by_cases hid : id = t.size + 1
    · simp [hid]
    · have hnone : t.nodeFor? id ≠ some m := fun hsome => by simp [(h m id).2 hsome] at hm
      simp [hid, hnone, Ne.symm hid]
  · by_cases hid : id = t.size + 1
    · subst hid
      have hnone : t.idFor? n ≠ some (t.size + 1) := fun hsome => by
        have := (le_size_of_nodeFor? ((h n _).1 hsome)).2
        omega
      simp [hn, hnone]
    · simp [hn, hid, h]

/-- In a table that has grown from the empty one, a node has a number exactly if the number has the
node. -/
theorem idFor?_eq_some_iff (h : empty.Extends t) :
    t.idFor? n = some id ↔ t.nodeFor? id = some n := by
  induction h generalizing n id with
  | refl => simp [idFor?, nodeFor?, empty]
  | push h hm ih => exact idFor?_push_eq_some_iff hm fun _ _ => ih

/-- Whether a table has numbers for nodes of a list only. -/
def Within (N : List Node) (t : NodeTable) : Prop := t.nodes.toList ⊆ N

theorem Within.push {N : List Node} (h : t.Within N) (hn : n ∈ N) : (t.push n).Within N := by
  intro m hm
  rw [toList_push, List.mem_append, List.mem_singleton] at hm
  rcases hm with hm | rfl
  · exact h hm
  · exact hn

theorem Within.allocate {N : List Node} (h : t.Within N) (hn : n ∈ N) :
    (t.allocate n).2.Within N := by
  cases hid : t.idFor? n with
  | some id => simpa only [NodeTable.allocate, hid] using h
  | none => simpa only [NodeTable.allocate, hid] using h.push hn

theorem exists_idFor?_of_mem (h : empty.Extends t) (hn : n ∈ t.nodes.toList) :
    ∃ id, t.idFor? n = some id := by
  obtain ⟨i, hi, rfl⟩ := List.getElem_of_mem hn
  refine ⟨i + 1, (idFor?_eq_some_iff h).2 ?_⟩
  have hsize : i < t.nodes.size := by simpa using hi
  simp [nodeFor?, hsize]

theorem Extends.nodup (h : empty.Extends t) : t.nodes.toList.Nodup := by
  induction h with
  | refl => exact List.nodup_nil
  | @push t n h hn ih =>
    rw [toList_push, List.nodup_append]
    refine ⟨ih, List.pairwise_singleton _ n, ?_⟩
    rintro m hm m' hm' rfl
    obtain ⟨id, hid⟩ := exists_idFor?_of_mem h hm
    rw [List.mem_singleton.1 hm', hn] at hid
    cases hid

/-- No node has two numbers, so there are at most as many numbers as nodes. -/
theorem Within.size_le {N : List Node} (h : t.Within N) (hext : empty.Extends t) :
    t.size ≤ N.length := by
  have hle := hext.nodup.length_le_of_subset h
  rwa [Array.length_toList] at hle

/-! ### Computations -/

section Computations

variable {σ α β : Type} {numbered : Prop} {tableOf : σ → NodeTable}

/-- A computation that lets the table of nodes in its state grow, also when it fails. When it
succeeds, all new numbers are signed words if the old ones are. Unless nodes are `numbered`, there
are no new ones. -/
structure Grows (numbered : Prop) (tableOf : σ → NodeTable) (x : ExceptT Error (StateM σ) α) :
    Prop where
  /-- The table grows. -/
  extends_table (s : σ) : (tableOf s).Extends (tableOf (x.run.run s).2)
  /-- The numbers stay small. -/
  fits {s s' : σ} {a : α} (h : x.run.run s = (.ok a, s')) : (tableOf s).Fits → (tableOf s').Fits
  /-- The table may have to stay as it is. -/
  table_eq (h : ¬ numbered) (s : σ) : tableOf (x.run.run s).2 = tableOf s

/-- A computation that does not touch the table. -/
theorem grows_of_table_eq {x : ExceptT Error (StateM σ) α}
    (h : ∀ s, tableOf (x.run.run s).2 = tableOf s) : Grows numbered tableOf x where
  extends_table s := by
    rw [h]
    exact .refl
  fits := by
    intro s s' a hrun hfits
    have hs := h s
    rw [hrun] at hs
    rwa [hs]
  table_eq _ := h

theorem grows_pure (a : α) : Grows numbered tableOf (pure a) := grows_of_table_eq fun _ => rfl

theorem grows_throw (e : Error) : Grows numbered tableOf (throw e : ExceptT Error (StateM σ) α) :=
  grows_of_table_eq fun _ => rfl

theorem grows_lift (r : Except Error α) : Grows numbered tableOf (liftM r) := by
  cases r with
  | ok a => exact grows_pure a
  | error e => exact grows_throw e

theorem Grows.bind {x : ExceptT Error (StateM σ) α} {k : α → ExceptT Error (StateM σ) β}
    (hx : Grows numbered tableOf x) (hk : ∀ a, Grows numbered tableOf (k a)) :
    Grows numbered tableOf (x >>= k) where
  extends_table s := by
    have hfirst := hx.extends_table s
    rcases h : x.run.run s with ⟨e | a, s'⟩
    · rw [h] at hfirst
      rwa [run_bind_error h]
    · rw [h] at hfirst
      rw [run_bind_ok h]
      exact hfirst.trans ((hk a).extends_table s')
  fits h hfits := by
    obtain ⟨a, s₁, hfirst, hrest⟩ := run_bind_eq_ok h
    exact (hk a).fits hrest (hx.fits hfirst hfits)
  table_eq hn s := by
    have hfirst := hx.table_eq hn s
    rcases h : x.run.run s with ⟨e | a, s'⟩
    · rw [h] at hfirst
      rwa [run_bind_error h]
    · rw [h] at hfirst
      rw [run_bind_ok h, (hk a).table_eq hn, hfirst]

end Computations

end Clearance.NodeTable
