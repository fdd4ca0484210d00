import Clearance.Proofs.Node.Term
import Clearance.Proofs.NodeTable.Growth
import Clearance.Store.Persistent

/-!
# Saved tables of nodes

A database keeps the numbers of the nodes beside the terms of the nodes. When the numbers that a
table got since it was saved are written, the table is saved again; and loading a saved table gives
the table itself, since every node is read back from its term.

## Main definitions

* `Clearance.NodeTable.SavedIn` — tables that a database keeps.

## Main results

* `Clearance.NodeTable.SavedIn.addNodes` — saving what a table got.
* `Clearance.PersistentStore.savedTable_byNodeId` — loading a table.
-/

namespace Clearance

namespace NodeTable

variable {t t' : NodeTable} {db : Database}

/-- The terms of the nodes of a table under their numbers, in ascending order. -/
def termRows (t : NodeTable) : List (Nat × String) :=
  (t.allocatedSince 0).map fun (id, n) => (id, String.ofList n.term)

/-- Whether a database keeps the numbers of a table and no others. -/
def SavedIn (t : NodeTable) (db : Database) : Prop :=
  db.nodes.toList = t.termRows.map fun (id, term) => ((id : Int), term)

theorem savedIn_empty (h : db.nodes = ∅) : empty.SavedIn db := by
  rw [SavedIn, h]
  rfl

theorem termRows_push (t : NodeTable) (n : Node) :
    (t.push n).termRows = t.termRows ++ [(t.size + 1, String.ofList n.term)] := by
  rw [termRows, allocatedSince_push (Nat.zero_le _), List.map_append]
  rfl

theorem allocatedSince_zero (t : NodeTable) :
    t.allocatedSince 0 = (t.nodes.toList.zipIdx 1).map fun (n, id) => (id, n) := by
  simp [allocatedSince]

/-- The rows of a table that has grown go on where the old ones end. -/
theorem Extends.termRows_prefix (h : t.Extends t') : t.termRows <+: t'.termRows := by
  induction h with
  | refl => exact List.prefix_rfl
  | push _ _ ih =>
    rw [termRows_push]
    exact ih.trans (List.prefix_append _ _)

theorem le_size_of_mem_allocatedSince {mark id : Nat} {n : Node}
    (h : (id, n) ∈ t.allocatedSince mark) : id ≤ t.size := by
  simp only [allocatedSince, List.mem_map, Prod.mk.injEq, Prod.exists] at h
  obtain ⟨m, id', hmem, rfl, rfl⟩ := h
  have hbound := (List.mem_zipIdx hmem).2.1
  rw [List.length_drop, Array.length_toList] at hbound
  simp only [size] at hbound ⊢
  omega

theorem le_size_of_mem_termRows {id : Nat} {term : String} (h : (id, term) ∈ t.termRows) :
    id ≤ t.size := by
  obtain ⟨p, hp, heq⟩ := List.mem_map.1 h
  cases heq
  exact le_size_of_mem_allocatedSince hp

/-! ### Saving -/

/-- An entry with a key behind all others comes last. -/
theorem toList_insert_of_forall_lt {rows : Std.ExtTreeMap Int String} {k : Int} {v : String}
    (h : ∀ p ∈ rows.toList, p.1 < k) : (rows.insert k v).toList = rows.toList ++ [(k, v)] := by
  have hsorted {rows : Std.ExtTreeMap Int String} :
      rows.toList.Pairwise fun p q => p.1 < q.1 :=
    rows.ordered_keys_toList.imp fun h => Int.compare_eq_lt.1 h
  have hnodup {ps : List (Int × String)} (hps : ps.Pairwise fun p q => p.1 < q.1) : ps.Nodup := by
    refine hps.imp fun {p q} hlt heq => ?_
    rw [heq] at hlt
    exact Int.lt_irrefl _ hlt
  have happend : (rows.toList ++ [(k, v)]).Pairwise fun p q => p.1 < q.1 := by
    refine List.pairwise_append.2 ⟨hsorted, List.pairwise_singleton _ _, fun p hp q hq => ?_⟩
    obtain rfl := List.mem_singleton.1 hq
    exact h p hp
  have hmem (p : Int × String) : p ∈ (rows.insert k v).toList ↔ p ∈ rows.toList ++ [(k, v)] := by
    obtain ⟨id, term⟩ := p
    rw [List.mem_append, List.mem_singleton, Std.ExtTreeMap.mem_toList_iff_getElem?_eq_some,
      Std.ExtTreeMap.mem_toList_iff_getElem?_eq_some, Std.ExtTreeMap.getElem?_insert]
    by_cases hid : k = id
    · subst hid
      have hfresh : rows[k]? ≠ some term := fun hsome =>
        Int.lt_irrefl k (h (k, term) (Std.ExtTreeMap.mem_toList_iff_getElem?_eq_some.2 hsome))
      simp [hfresh, eq_comm]
    · simp [hid, Ne.symm hid]
  have hasymm : ∀ p q : Int × String, p ∈ (rows.insert k v).toList → q ∈ rows.toList ++ [(k, v)] →
      p.1 < q.1 → q.1 < p.1 → p = q := fun p q _ _ hpq hqp => by omega
  exact List.Perm.eq_of_pairwise hasymm hsorted happend
    ((List.perm_ext_iff_of_nodup (hnodup hsorted) (hnodup happend)).2 hmem)

theorem wordCount_eq : Database.wordCount = 0x10000000000000000 := by
  rfl

theorem signedWord_of_lt {id : Nat} (h : id < 1 <<< 63) : Database.signedWord id = id := by
  rw [Database.signedWord, Int.bmod_def, wordCount_eq]
  omega

theorem SavedIn.lt_of_mem (h : t.SavedIn db) {p : Int × String} (hp : p ∈ db.nodes.toList) :
    p.1 < ((t.size + 1 : Nat) : Int) := by
  rw [h, List.mem_map] at hp
  obtain ⟨⟨id, term⟩, hmem, rfl⟩ := hp
  have hle := le_size_of_mem_termRows hmem
  show (id : Int) < _
  omega

/-- Saving one more number. -/
theorem SavedIn.addNode (h : t.SavedIn db) (n : Node) (hfits : t.size + 1 < 1 <<< 63) :
    ∃ nodes, db.addNode (t.size + 1) (String.ofList n.term) = .ok { db with nodes } ∧
      (t.push n).SavedIn { db with nodes } := by
  have hnone : db.nodes.contains ((t.size + 1 : Nat) : Int) = false := by
    rw [Bool.eq_false_iff, Ne, Std.ExtTreeMap.contains_iff_mem]
    intro hmem
    have hget := Std.ExtTreeMap.getElem?_eq_some_getElem hmem
    exact Int.lt_irrefl _ (h.lt_of_mem (Std.ExtTreeMap.mem_toList_iff_getElem?_eq_some.2 hget))
  refine ⟨db.nodes.insert ((t.size + 1 : Nat) : Int) (String.ofList n.term), ?_, ?_⟩
  · rw [Database.addNode, signedWord_of_lt hfits, hnone]
    rfl
  · rw [SavedIn, termRows_push, List.map_append, ← h]
    exact toList_insert_of_forall_lt fun p hp => h.lt_of_mem hp

theorem foldlM_concat {α β : Type} {f : β → α → Except Error β} {xs : List α} {x : α} {b b' c : β}
    (hxs : xs.foldlM f b = .ok b') (hx : f b' x = .ok c) : (xs ++ [x]).foldlM f b = .ok c := by
  rw [List.foldlM_append, hxs]
  show List.foldlM f b' [x] = _
  rw [List.foldlM_cons, hx]
  rfl

/-- **A table that has grown is saved again** by writing what it got since it was saved. -/
theorem SavedIn.addNodes (h : t.SavedIn db) (hext : t.Extends t') (hfits : t'.Fits) :
    ∃ nodes, ((t'.allocatedSince t.size).map fun (id, n) => (id, String.ofList n.term)).foldlM
        (fun db (id, term) => db.addNode id term) db = Except.ok { db with nodes } ∧
      t'.SavedIn { db with nodes } := by
  induction hext with
  | refl =>
    rw [allocatedSince_size]
    exact ⟨db.nodes, rfl, h⟩
  | @push t' n hext _ ih =>
    rw [Fits, size_push] at hfits
    obtain ⟨nodes, hrun, hsaved⟩ := ih (Nat.lt_of_succ_lt hfits)
    obtain ⟨nodes', hrun', hsaved'⟩ := hsaved.addNode n hfits
    refine ⟨nodes', ?_, hsaved'⟩
    rw [allocatedSince_push hext.size_le, List.map_append]
    exact foldlM_concat hrun hrun'

/-! ### Loading -/

theorem unsignedWord_natCast {id : Nat} (h : id < 1 <<< 63) : Database.unsignedWord id = id := by
  rw [Database.unsignedWord, wordCount_eq]
  omega

theorem SavedIn.nodeRows_eq (h : t.SavedIn db) (hfits : t.Fits) : db.nodeRows = t.termRows := by
  rw [Database.nodeRows, h, List.map_map]
  conv => rhs; rw [← List.map_id t.termRows]
  refine List.map_congr_left fun p hp => ?_
  have hle := le_size_of_mem_termRows hp
  rw [Fits] at hfits
  show (Database.unsignedWord p.1, p.2) = p
  rw [unsignedWord_natCast (by omega)]

end NodeTable

namespace PersistentStore

open NodeTable

variable {t : NodeTable} {db : Database}

theorem savedNodes_eq (h : t.SavedIn db) (hfits : t.Fits) :
    savedNodes db = .ok (t.allocatedSince 0) := by
  have hmap : ∀ entries : List (Nat × Node),
      (entries.map fun (id, n) => (id, String.ofList n.term)).mapM (m := Except Error)
        (fun (id, term) => do
          let n ← (Node.ofTerm term.toList).mapError Error.corrupt
          return (id, n)) = .ok entries := by
    intro entries
    induction entries with
    | nil => rfl
    | cons entry entries ih =>
      obtain ⟨id, n⟩ := entry
      have hn : Node.ofTerm (String.ofList n.term).toList = .ok n := by
        rw [String.toList_ofList, Node.ofTerm_term]
      rw [List.map_cons, List.mapM_cons, ih]
      dsimp only
      rw [hn]
      rfl
  rw [savedNodes, h.nodeRows_eq hfits]
  exact hmap (t.allocatedSince 0)

/-- **A saved table is loaded as it was.** -/
theorem savedTable_byNodeId (h : t.SavedIn db) (hgrown : NodeTable.empty.Extends t)
    (hfits : t.Fits) : savedTable db .byNodeId = .ok t := by
  have hload : NodeTable.empty.load (t.allocatedSince 0) = (.ok (), t) :=
    hgrown.load_allocatedSince
  rw [savedTable, savedNodes_eq h hfits]
  dsimp only [Bind.bind, Except.bind]
  rw [hload]
  rfl

end PersistentStore

end Clearance
