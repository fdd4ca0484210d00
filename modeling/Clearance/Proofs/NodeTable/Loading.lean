import Clearance.Proofs.NodeTable.TwoWay

/-!
# Tables that are cut back and loaded

A table comes from the empty one: numbers are given to nodes, the table is cut back to a mark, and
saved entries are loaded. Numbers and nodes belong together in it, and the numbers are 1, 2, 3, … up
to its size, as long as the entries that are loaded bring *news*: each of them is about another
node, and none about a node that has a number. Loading asks of the entries that their numbers go on
where those of the table end, and nothing of their nodes. Entries without news are taken as well;
then a node gets a second number, and its first number does not lead back to it any more.

## Main definitions

* `Clearance.NodeTable.News` — entries that bring news.
* `Clearance.NodeTable.Filled` — tables that come from the empty one.

## Main results

* `Clearance.NodeTable.nodeFor?_truncate`, `Clearance.NodeTable.extends_truncate` — cutting back.
* `Clearance.NodeTable.extends_load`, `Clearance.NodeTable.news_of_twoWay` — loading.
* `Clearance.NodeTable.filled_tables_are_two_way`
-/

namespace Clearance.NodeTable

open NodeIds

variable {t t' : NodeTable} {n : Node} {id mark : Nat} {entries : List (Nat × Node)}

/-- Whether entries are about different nodes, none of which has a number. -/
structure News (t : NodeTable) (entries : List (Nat × Node)) : Prop where
  /-- No node has two entries. -/
  nodup : (entries.map Prod.snd).Nodup
  /-- No node has a number. -/
  unknown : ∀ e ∈ entries, t.idFor? e.2 = none

/-- The tables that come from the empty one when all entries that are loaded bring news. -/
inductive Filled : NodeTable → Prop where
  /-- The empty table. -/
  | empty : Filled empty
  /-- A node is asked for its number, and gets one if it has none. -/
  | allocate {t : NodeTable} (h : Filled t) (n : Node) : Filled (t.allocate n).2
  /-- The numbers above a mark are forgotten. -/
  | truncate {t : NodeTable} (h : Filled t) (mark : Nat) : Filled (t.truncate mark)
  /-- Saved entries are loaded. -/
  | load {t t' : NodeTable} (h : Filled t) {entries : List (Nat × Node)} (hnews : t.News entries)
    (hload : t.load entries = (.ok (), t')) : Filled t'

/-! ### Cutting back -/

theorem nodeFor?_succ (t : NodeTable) (i : Nat) : t.nodeFor? (i + 1) = t.nodes.toList[i]? := by
  simp [nodeFor?]

/-- The numbers up to the mark keep their nodes. -/
theorem nodeFor?_truncate (t : NodeTable) (mark id : Nat) :
    (t.truncate mark).nodeFor? id = if id ≤ mark then t.nodeFor? id else none := by
  cases id with
  | zero => simp [nodeFor?]
  | succ i =>
    have hnodes : (t.truncate mark).nodes.toList = t.nodes.toList.take mark := by simp [truncate]
    simp only [nodeFor?_succ, hnodes, List.getElem?_take, Nat.succ_le_iff]

theorem truncate_of_size_le (h : t.size ≤ mark) : t.truncate mark = t := by
  have hdrop : t.nodes.toList.drop mark = [] := List.drop_eq_nil_of_le h
  have htake : t.nodes.take mark = t.nodes := by
    rw [Array.take_eq_extract, Array.extract_eq_self_of_le h]
  rw [truncate, hdrop, htake]
  rfl

theorem extends_truncate (h : empty.Extends t) (mark : Nat) : empty.Extends (t.truncate mark) := by
  induction h with
  | refl =>
    rw [truncate_of_size_le (Nat.zero_le mark)]
    exact .refl
  | @push t n h hn ih =>
    by_cases hmark : mark ≤ t.size
    · rwa [truncate_push hn hmark]
    · rw [truncate_of_size_le (by rw [size_push]; omega)]
      exact h.push hn

/-! ### Loading -/

theorem News.push {e : Nat × Node} (h : t.News (e :: entries)) : (t.push e.2).News entries := by
  obtain ⟨hne, hnodup⟩ := List.nodup_cons.1 h.nodup
  refine ⟨hnodup, fun e' he' => ?_⟩
  rw [idFor?_push, if_neg, h.unknown e' (List.mem_cons_of_mem _ he')]
  intro heq
  exact hne (heq ▸ List.mem_map_of_mem he')

/-- Entries that bring news let a table grow. -/
theorem extends_load (hnews : t.News entries) (hload : t.load entries = (.ok (), t')) :
    t.Extends t' := by
  induction entries generalizing t with
  | nil =>
    cases hload
    exact .refl
  | cons e entries ih =>
    have hfirst : t.Extends (t.push e.2) := Extends.refl.push (hnews.unknown e List.mem_cons_self)
    by_cases hid : e.1 = t.size + 1
    · rw [load, if_pos hid] at hload
      exact hfirst.trans (ih hnews.push hload)
    · rw [load, if_neg hid] at hload
      cases hload

theorem toList_load (hload : t.load entries = (.ok (), t')) :
    t'.nodes.toList = t.nodes.toList ++ entries.map Prod.snd := by
  induction entries generalizing t with
  | nil =>
    cases hload
    simp
  | cons e entries ih =>
    by_cases hid : e.1 = t.size + 1
    · rw [load, if_pos hid] at hload
      rw [ih hload, toList_push, List.append_assoc]
      rfl
    · rw [load, if_neg hid] at hload
      cases hload

theorem mem_toList_of_nodeFor? (h : t.nodeFor? id = some n) : n ∈ t.nodes.toList := by
  cases id with
  | zero => cases h
  | succ i =>
    rw [nodeFor?_succ] at h
    exact List.mem_of_getElem? h

/-- Where numbers and nodes belong together, no node stands twice. -/
theorem nodup_of_twoWay (h : TwoWay t) : t.nodes.toList.Nodup := by
  have hid {i : Nat} (hi : i < t.nodes.toList.length) :
      t.idFor? t.nodes.toList[i] = some (i + 1) :=
    (h _ _).2 ((t.nodeFor?_succ i).trans (List.getElem?_eq_getElem hi))
  refine List.pairwise_iff_getElem.2 fun i j hi hj hij heq => ?_
  have hsame := (hid hi).symm.trans ((congrArg t.idFor? heq).trans (hid hj))
  rw [Option.some.injEq] at hsame
  omega

/-- Only entries that bring news leave numbers and nodes together. -/
theorem news_of_twoWay (h : TwoWay t) (h' : TwoWay t') (hload : t.load entries = (.ok (), t')) :
    t.News entries := by
  have hnodup := nodup_of_twoWay h'
  rw [toList_load hload, List.nodup_append] at hnodup
  refine ⟨hnodup.2.1, fun e he => ?_⟩
  rcases hid : t.idFor? e.2 with _ | id
  · rfl
  · have hknown : e.2 ∈ t.nodes.toList := mem_toList_of_nodeFor? ((h e.2 id).1 hid)
    exact absurd rfl (hnodup.2.2 _ hknown _ (List.mem_map_of_mem he))

/-! ### Tables that come from the empty one -/

theorem Filled.extends_empty (h : t.Filled) : NodeTable.empty.Extends t := by
  induction h with
  | empty => exact .refl
  | allocate h n ih => exact ih.trans (extends_allocate _ n)
  | truncate h mark ih => exact extends_truncate ih mark
  | load h hnews hload ih => exact ih.trans (extends_load hnews hload)

/-- **Numbers and nodes belong together** in every table that comes from the empty one by giving
numbers to nodes, cutting back, and loading entries that bring news. The numbers are 1, 2, 3, … up
to the size of the table. Cutting back keeps what belongs to the numbers up to the mark, and forgets
all other nodes. Of the entries that can be loaded, those that bring news are the only ones after
which numbers and nodes still belong together. -/
theorem filled_tables_are_two_way (h : t.Filled) :
    (∀ id, (∃ n, t.nodeFor? id = some n) ↔ 1 ≤ id ∧ id ≤ t.size) ∧
    (∀ n id, t.idFor? n = some id ↔ t.nodeFor? id = some n) ∧
    (∀ mark,
      (∀ id, (t.truncate mark).nodeFor? id = if id ≤ mark then t.nodeFor? id else none) ∧
      ∀ n id, (t.truncate mark).idFor? n = some id ↔ t.idFor? n = some id ∧ id ≤ mark) ∧
    ∀ entries t', t.load entries = (.ok (), t') →
      ((∀ n id, t'.idFor? n = some id ↔ t'.nodeFor? id = some n) ↔ t.News entries) := by
  have htwoWay : TwoWay t := twoWay h.extends_empty
  refine ⟨fun id => exists_nodeFor?_iff, htwoWay, fun mark => ⟨t.nodeFor?_truncate mark, ?_⟩, ?_⟩
  · intro n id
    have hcut : TwoWay (t.truncate mark) := twoWay (h.truncate mark).extends_empty
    calc (t.truncate mark).idFor? n = some id
        ↔ (t.truncate mark).nodeFor? id = some n := hcut n id
      _ ↔ t.nodeFor? id = some n ∧ id ≤ mark := by
        rw [nodeFor?_truncate]
        by_cases hid : id ≤ mark <;> simp [hid]
      _ ↔ t.idFor? n = some id ∧ id ≤ mark := and_congr_left' (htwoWay n id).symm
  · intro entries t' hload
    exact ⟨fun h' => news_of_twoWay htwoWay h' hload,
      fun hnews => twoWay (h.load hnews hload).extends_empty⟩

/-- A table that is loaded, cut back, given another node in place of the one that it forgot, and
loaded again. -/
theorem filled_tables_are_two_way_reloaded :
    let t : NodeTable := (empty.load [(1, .uri "a"), (2, .uri "b")]).2
    let u : NodeTable := (((t.truncate 1).allocate (.blank "c")).2.load [(3, .uri "b")]).2
    u.Filled ∧ u.idFor? (.uri "b") = some 3 ∧ u.nodeFor? 3 = some (.uri "b") ∧
      u.idFor? (.blank "c") = some 2 ∧ (u.truncate 2).idFor? (.uri "b") = none := by
  intro t u
  have hsaved : empty.News [(1, .uri "a"), (2, .uri "b")] := ⟨by decide, by decide +kernel⟩
  have ht : t.Filled := Filled.empty.load hsaved rfl
  have hnews : ((t.truncate 1).allocate (.blank "c")).2.News [(3, .uri "b")] :=
    ⟨by decide, by decide +kernel⟩
  have hu : u.Filled := ((ht.truncate 1).allocate (.blank "c")).load hnews rfl
  have hnode : u.nodeFor? 3 = some (.uri "b") := by decide +kernel
  obtain ⟨-, htwoWay, hcut, -⟩ := filled_tables_are_two_way hu
  refine ⟨hu, (htwoWay _ _).2 hnode, hnode, (htwoWay _ _).2 (by decide +kernel), ?_⟩
  rw [Option.eq_none_iff_forall_ne_some]
  intro id hid
  obtain ⟨hknown, hle⟩ := ((hcut 2).2 _ id).1 hid
  rw [(htwoWay _ _).2 hnode, Option.some.injEq] at hknown
  omega

/-- **A node that is loaded twice gets a second number**, and loading succeeds. The first number
still has the node; when the table is cut back to it, the node has no number at all. -/
theorem loaded_twice_is_not_two_way :
    let entries : List (Nat × Node) := [(1, .uri "a"), (2, .uri "a")]
    let t : NodeTable := (empty.load entries).2
    (empty.load entries).1 = .ok () ∧ t.nodeFor? 1 = some (.uri "a") ∧
      t.idFor? (.uri "a") = some 2 ∧ (t.truncate 1).nodeFor? 1 = some (.uri "a") ∧
      (t.truncate 1).idFor? (.uri "a") = none := by
  intro entries t
  exact ⟨rfl, by decide +kernel, by decide +kernel, by decide +kernel, by decide +kernel⟩

end Clearance.NodeTable
