import Clearance.Codec.Key
import Clearance.Proofs.Codec.ByNodeId
import Clearance.Proofs.Codec.Exactness
import Clearance.Proofs.NodeTable.TwoWay
import Clearance.Proofs.Pattern

/-!
# Keys that hold numbers are read back

To store nodes gives them numbers one after the other, and writes for each a key that depends on its
number only. So what was stored is read back with every table that still has these numbers, in front
of all other bytes; keys tell nodes and triples apart, and what is cut off is corrupt. A lookup
gives no numbers. It finds nothing exactly if a node other than the wildcard has none, and does what
storing does if all have one.

All of this holds for tables of any sort in which numbers and nodes belong together.

## Main definitions

* `Clearance.ByNodeId.NodeKey`, `Clearance.ByNodeId.NodesKey` — the keys of nodes in terms of a
  table.
* `Clearance.ByNodeId.Numbers` — nodes that get numbers one after the other.
* `Clearance.ByNodeId.StoresNodes`, `Clearance.ByNodeId.LooksUpNodes` — encoders that store nodes
  and look them up.

## Main results

* `Clearance.ByNodeId.Numbers.writes`, `Clearance.ByNodeId.numbers_of_run_encodeNodes` — storing.
* `Clearance.ByNodeId.writes_lookups`, `Clearance.ByNodeId.run_lookups_eq_stores` — looking up.
* `Clearance.ByNodeId.number_keys_read_back` — the keys are read back.
-/

namespace Clearance.ByNodeId

open DecodeM EncodeM NodeIds

variable {τ : Type}

/-! ### Writing keeps the table -/

/-- What is written for a node with a number leaves the table as it is. -/
theorem keeps_number (t : τ) (n : Node) (id : Nat) :
    Keeps (fun sheet : Sheet τ => sheet.table = t) (do
      if 1 <<< 63 ≤ id then throw (.invalid (.idOutOfRange id))
      EncodeM.put [topByte n.kind (sizeOf id)]
      EncodeM.put (leBytes (1 <<< sizeOf id) id)
      return true) fun _ => True := by
  have hput : Keeps (fun sheet : Sheet τ => sheet.table = t) (do
      EncodeM.put [topByte n.kind (sizeOf id)]
      EncodeM.put (leBytes (1 <<< sizeOf id) id)
      return true) fun _ => True :=
    (keeps_put t _).bind fun _ _ => (keeps_put t _).bind fun _ _ => keeps_pure trivial
  split
  · have hthrow : Keeps (fun sheet : Sheet τ => sheet.table = t)
        (throw (.invalid (.idOutOfRange id)) : EncodeM τ PUnit) fun _ => True := keeps_throw _
    exact hthrow.bind fun _ _ => hput
  · exact hput

variable [NodeIds τ] {E : Error → Prop} {t t' t₁ : τ} {n : Node} {ns : List Node} {q : Triple}
  {id : Nat} {bs : Bytes} {use : KeyUse}

/-! ### Keys -/

/-- The key of a node: the wildcard has one of its own, all other nodes need small numbers. -/
inductive NodeKey (t : τ) : Node → Bytes → Prop where
  /-- The key of the wildcard. -/
  | any : NodeKey t .any [topByte .any 0]
  /-- The key of a node with a number. -/
  | number {n : Node} {id : Nat} (hn : n ≠ .any) (hid : idFor? t n = some id)
    (hsmall : id < 1 <<< 63) : NodeKey t n (numberBytes n.kind id)

/-- The keys of nodes one after the other. -/
inductive NodesKey (t : τ) : List Node → Bytes → Prop where
  /-- No nodes have no bytes. -/
  | nil : NodesKey t [] []
  /-- The key of a node stands before those of the next ones. -/
  | cons {n : Node} {ns : List Node} {front back : Bytes} (h : NodeKey t n front)
    (hs : NodesKey t ns back) : NodesKey t (n :: ns) (front ++ back)

/-- The second table is the first one after the nodes of a list got numbers, one after the other.
The wildcard needs none. All these numbers are small. -/
inductive Numbers : τ → List Node → τ → Prop where
  /-- No nodes get numbers. -/
  | nil (t : τ) : Numbers t [] t
  /-- The wildcard is passed over. -/
  | any {t t' : τ} {ns : List Node} (hs : Numbers t ns t') : Numbers t (.any :: ns) t'
  /-- A node has a number or gets one, and then the next ones do. -/
  | node {t t₁ t' : τ} {n : Node} {ns : List Node} {id : Nat} (hn : n ≠ .any)
    (h : allocate t n = .ok (id, t₁)) (hsmall : id < 1 <<< 63) (hs : Numbers t₁ ns t') :
    Numbers t (n :: ns) t'

theorem length_numberBytes_le (kind : NodeKind) (id : Nat) : (numberBytes kind id).length ≤ 9 := by
  rw [numberBytes, List.length_append, length_leBytes]
  have hwidths : ∀ width ∈ ByteReader.signedWidths, width ≤ 8 := by decide
  have hwidth := hwidths _ (one_shiftLeft_sizeOf_mem id)
  rw [List.length_singleton]
  omega

theorem NodeKey.length_le (h : NodeKey t n bs) : bs.length ≤ 9 := by
  cases h with
  | any => decide
  | number => exact length_numberBytes_le _ _

theorem NodesKey.length_le (h : NodesKey t ns bs) : bs.length ≤ 9 * ns.length := by
  induction h with
  | nil => exact Nat.zero_le _
  | cons h _ ih =>
    have hfront := h.length_le
    rw [List.length_append, List.length_cons]
    omega

/-- Keys stay as long as the numbers do. -/
theorem NodeKey.mono (h : NodeKey t n bs) (hkept : KeptIn t t') : NodeKey t' n bs := by
  cases h with
  | any => exact .any
  | number hn hid hsmall => exact .number hn (hkept _ _ hid) hsmall

theorem NodesKey.mono (h : NodesKey t ns bs) (hkept : KeptIn t t') : NodesKey t' ns bs := by
  induction h with
  | nil => exact .nil
  | cons h _ ih => exact .cons (h.mono hkept) ih

/-! ### Storing -/

theorem encodeNodes_singleton (n : Node) (use : KeyUse) :
    (KeyFormat.byNodeId.encodeNodes use [n] : EncodeM τ Bool)
      = KeyFormat.byNodeId.encodeNode n use := by
  have hlast (known : Bool) : (if known then KeyFormat.byNodeId.encodeNodes use [] else return false
      : EncodeM τ Bool) = pure known := by cases known <;> rfl
  rw [KeyFormat.encodeNodes, funext hlast, bind_pure]

theorem Numbers.cons (h : Numbers t [n] t₁) (hs : Numbers t₁ ns t') : Numbers t (n :: ns) t' := by
  cases h with
  | any h =>
    cases h
    exact .any hs
  | node hn h hsmall hlast =>
    cases hlast
    exact .node hn h hsmall hs

/-- **Storing gives numbers**: a node that was stored has got one, and it is small. -/
theorem numbers_of_run_encodeNode {sheet sheet' : Sheet τ}
    (h : (encodeNode n .store).run.run sheet = (.ok true, sheet')) :
    Numbers sheet.table [n] sheet'.table := by
  by_cases hn : n = .any
  · subst hn
    have hput : Keeps (fun sheet' : Sheet τ => sheet'.table = sheet.table) (do
        EncodeM.put [topByte .any 0]
        return true) fun _ => True := (keeps_put _ _).bind fun _ _ => keeps_pure trivial
    have hkept := (hput sheet rfl).1
    rw [encodeNode, if_pos rfl] at h
    rw [h] at hkept
    exact .any (hkept ▸ .nil _)
  rw [encodeNode, if_neg hn] at h
  cases hallocate : allocate sheet.table n with
  | error e =>
    have hnumber : (numberOf? n .store).run.run sheet = (.error e, sheet) := by
      unfold numberOf?
      rw [run_get_bind, hallocate]
      rfl
    rw [run_bind_error hnumber] at h
    cases h
  | ok numbered =>
    obtain ⟨id, t₁⟩ := numbered
    rw [run_bind_ok (run_numberOf?_of_allocate hallocate sheet.buffer)] at h
    rcases Nat.lt_or_ge id (1 <<< 63) with hsmall | hlarge
    · have hkept := (keeps_number t₁ n id ⟨sheet.buffer, t₁⟩ rfl).1
      have htable : sheet'.table = t₁ := (congrArg (fun r => r.2.table) h).symm.trans hkept
      exact .node hn hallocate hsmall (htable ▸ .nil _)
    · dsimp only at h
      rw [if_pos hlarge] at h
      cases h

theorem numbers_of_run_encodeNodes {sheet sheet' : Sheet τ}
    (h : (KeyFormat.byNodeId.encodeNodes .store ns).run.run sheet = (.ok true, sheet')) :
    Numbers sheet.table ns sheet'.table := by
  induction ns generalizing sheet with
  | nil =>
    cases h
    exact .nil _
  | cons n ns ih =>
    obtain ⟨known, sheet₁, hnode, hrest⟩ := run_bind_eq_ok h
    cases known with
    | false => cases hrest
    | true => exact (numbers_of_run_encodeNode hnode).cons (ih hrest)

section Lawful

variable [LawfulNodeIds τ]

theorem Numbers.keptIn (h : Numbers t ns t') : KeptIn t t' := by
  induction h with
  | nil t => exact .refl t
  | any _ ih => exact ih
  | node _ h _ _ ih => exact (LawfulNodeIds.keeps_allocate h).trans ih

theorem Numbers.twoWay (h : Numbers t ns t') (ht : TwoWay t) : TwoWay t' := by
  induction h with
  | nil => exact ht
  | any _ ih => exact ih ht
  | node _ h _ _ ih => exact ih (LawfulNodeIds.twoWay_allocate h ht)

/-- Nodes with small numbers need no others. -/
theorem numbers_of_known
    (h : ∀ n ∈ ns, n = .any ∨ ∃ id, idFor? t n = some id ∧ id < 1 <<< 63) : Numbers t ns t := by
  induction ns with
  | nil => exact .nil t
  | cons n ns ih =>
    obtain ⟨hn, hns⟩ := List.forall_mem_cons.1 h
    by_cases hany : n = .any
    · subst hany
      exact .any (ih hns)
    · obtain ⟨id, hid, hsmall⟩ := hn.resolve_left hany
      exact .node hany (LawfulNodeIds.allocate_known hid) hsmall (ih hns)

theorem numbers_of_knows (hsmall : Small t) (h : ∀ n ∈ ns, Knows t n) : Numbers t ns t :=
  numbers_of_known fun n hn => (h n hn).imp_right fun ⟨id, hid⟩ => ⟨id, hid, hsmall n id hid⟩

/-- A table with consecutive numbers has small ones for all nodes, as long as they last. -/
theorem exists_numbers {t : NodeTable} {ns : List Node} (ht : NodeTable.empty.Extends t)
    (hroom : t.size + ns.length < 1 <<< 63) : ∃ t', Numbers t ns t' := by
  induction ns generalizing t with
  | nil => exact ⟨t, .nil t⟩
  | cons n ns ih =>
    rw [List.length_cons] at hroom
    by_cases hn : n = .any
    · subst hn
      obtain ⟨t', hs⟩ := ih ht (by omega)
      exact ⟨t', .any hs⟩
    · have hext := ht.trans (NodeTable.extends_allocate t n)
      have hsize := NodeTable.size_allocate_le t n
      have hfits : (t.allocate n).2.Fits := by
        rw [NodeTable.Fits]
        omega
      obtain ⟨t', hs⟩ := ih hext (by omega)
      exact ⟨t', .node hn rfl (NodeTable.small hext hfits n _ (NodeTable.idFor?_allocate t n)) hs⟩

/-- **Storing nodes that can get numbers** writes the keys that they have then. -/
theorem Numbers.writes (h : Numbers t ns t') :
    ∃ bs, NodesKey t' ns bs ∧
      Writes E (KeyFormat.byNodeId.encodeNodes .store ns) t true bs t' := by
  induction h with
  | nil t => exact ⟨[], .nil, writes_pure true t⟩
  | @any t t' ns _ ih =>
    obtain ⟨bs, hkey, hwrites⟩ := ih
    exact ⟨_, .cons .any hkey, (writes_any .store t).bind hwrites⟩
  | @node t t₁ t' n ns id hn h hsmall hs ih =>
    obtain ⟨bs, hkey, hwrites⟩ := ih
    have hnode : NodeKey t₁ n (numberBytes n.kind id) :=
      .number hn (LawfulNodeIds.idFor?_allocate h) hsmall
    refine ⟨_, .cons (hnode.mono hs.keptIn) hkey, ?_⟩
    exact (writes_numbered hn (writes_numberOf?_store h) (.inr hsmall)).bind hwrites

theorem exists_appends_iff :
    (∃ bs, Appends (KeyFormat.byNodeId.encodeNodes .store ns) t true bs t') ↔ Numbers t ns t' := by
  constructor
  · rintro ⟨bs, b, -, hrun⟩
    exact numbers_of_run_encodeNodes hrun
  · intro h
    obtain ⟨bs, -, hwrites⟩ := h.writes
    exact ⟨bs, hwrites.appends⟩

/-- What was stored once is the key in the table after it. -/
theorem nodesKey_of_appends
    (h : Appends (KeyFormat.byNodeId.encodeNodes .store ns) t true bs t') : NodesKey t' ns bs := by
  obtain ⟨bs', hkey, hwrites⟩ := (exists_appends_iff.1 ⟨bs, h⟩).writes (E := fun _ => False)
  rwa [(hwrites.eq_of_appends h).2.1]

end Lawful

/-! ### Looking up -/

theorem keeps_encodeNode_lookup (t : τ) (n : Node) :
    Keeps (fun sheet : Sheet τ => sheet.table = t) (encodeNode n .lookup) fun _ => True := by
  unfold encodeNode
  split
  · exact (keeps_put t _).bind fun _ _ => keeps_pure trivial
  · have hnumber : Keeps (fun sheet : Sheet τ => sheet.table = t) (numberOf? n .lookup)
        fun _ => True := keeps_get_bind fun _ _ => keeps_pure trivial
    refine hnumber.bind fun id? _ => ?_
    cases id? with
    | none => exact keeps_pure trivial
    | some id => exact keeps_number t n id

/-- **Lookups give no numbers**, also when they fail. -/
theorem keeps_encodeNodes_lookup (t : τ) (ns : List Node) :
    Keeps (fun sheet : Sheet τ => sheet.table = t) (KeyFormat.byNodeId.encodeNodes .lookup ns)
      fun _ => True := by
  induction ns with
  | nil => exact keeps_pure trivial
  | cons n ns ih =>
    refine (keeps_encodeNode_lookup t n).bind fun known _ => ?_
    cases known with
    | false => exact keeps_pure trivial
    | true => exact ih

theorem writes_lookup (hsmall : Small t) (n : Node) :
    ∃ found bs, bs.length ≤ 9 ∧ Writes E (encodeNode n .lookup) t found bs t ∧
      (found = true ↔ Knows t n) := by
  by_cases hn : n = .any
  · subst hn
    exact ⟨true, _, by decide, writes_any .lookup t, iff_of_true rfl (.inl rfl)⟩
  cases hid : idFor? t n with
  | none =>
    refine ⟨false, [], Nat.zero_le _, writes_unnumbered hn hid, iff_of_false Bool.false_ne_true ?_⟩
    rintro (hany | ⟨id, hid'⟩)
    · exact hn hany
    · rw [hid] at hid'
      cases hid'
  | some id =>
    have hnumber : Writes E (numberOf? n .lookup) t (some id) [] t :=
      hid ▸ writes_numberOf?_lookup n t
    exact ⟨true, _, length_numberBytes_le _ _,
      writes_numbered hn hnumber (.inr (hsmall n id hid)), iff_of_true rfl (.inr ⟨id, hid⟩)⟩

/-- **Lookups find nodes exactly if the table knows them.** -/
theorem writes_lookups (hsmall : Small t) (ns : List Node) :
    ∃ found bs, bs.length ≤ 9 * ns.length ∧
      Writes E (KeyFormat.byNodeId.encodeNodes .lookup ns) t found bs t ∧
      (found = true ↔ ∀ n ∈ ns, Knows t n) := by
  induction ns with
  | nil =>
    exact ⟨true, [], Nat.zero_le _, writes_pure true t,
      iff_of_true rfl fun n hn => absurd hn List.not_mem_nil⟩
  | cons n ns ih =>
    obtain ⟨known, front, hfront, hnode, hknown⟩ := writes_lookup (E := E) hsmall n
    obtain ⟨found, back, hback, hnodes, hfound⟩ := ih
    rw [List.length_cons, List.forall_mem_cons, ← hknown, ← hfound]
    cases known with
    | false => exact ⟨false, front ++ [], by simp; omega, hnode.bind (writes_pure false t), by simp⟩
    | true => exact ⟨found, front ++ back, by simp; omega, hnode.bind hnodes, by simp⟩

section Lawful

variable [LawfulNodeIds τ]

theorem run_lookup_eq_store (h : Knows t n) (b : Scratch) :
    (encodeNode n .lookup).run.run ⟨b, t⟩ = (encodeNode n .store).run.run ⟨b, t⟩ := by
  unfold encodeNode
  by_cases hn : n = .any
  · rw [if_pos hn, if_pos hn]
  · obtain ⟨id, hid⟩ := h.resolve_left hn
    have hlookup : (numberOf? n .lookup).run.run ⟨b, t⟩ = (.ok (some id), ⟨b, t⟩) := by
      rw [← hid]
      rfl
    have hstore := run_numberOf?_of_allocate (LawfulNodeIds.allocate_known hid) b
    rw [if_neg hn, if_neg hn, run_bind_ok hlookup, run_bind_ok hstore]

/-- **Looking up nodes that the table knows is storing them.** -/
theorem run_lookups_eq_stores (h : ∀ n ∈ ns, Knows t n) (b : Scratch) :
    (KeyFormat.byNodeId.encodeNodes .lookup ns).run.run ⟨b, t⟩
      = (KeyFormat.byNodeId.encodeNodes .store ns).run.run ⟨b, t⟩ := by
  induction ns generalizing b with
  | nil => rfl
  | cons n ns ih =>
    obtain ⟨hn, hns⟩ := List.forall_mem_cons.1 h
    have hsame : (KeyFormat.byNodeId.encodeNode n .lookup).run.run ⟨b, t⟩
        = (KeyFormat.byNodeId.encodeNode n .store).run.run ⟨b, t⟩ := run_lookup_eq_store hn b
    have hkept : ((KeyFormat.byNodeId.encodeNode n .lookup).run.run ⟨b, t⟩).2.table = t :=
      (keeps_encodeNode_lookup t n ⟨b, t⟩ rfl).1
    rw [KeyFormat.encodeNodes, KeyFormat.encodeNodes]
    rcases hrun : (KeyFormat.byNodeId.encodeNode n .lookup).run.run ⟨b, t⟩ with ⟨e | known, sheet⟩
    · rw [run_bind_error hrun, run_bind_error (hsame ▸ hrun)]
    · rw [hrun] at hkept
      obtain ⟨b', t₁⟩ := sheet
      obtain rfl : t₁ = t := hkept
      rw [run_bind_ok hrun, run_bind_ok (hsame ▸ hrun)]
      cases known with
      | false => rfl
      | true => exact ih hns b'

end Lawful

/-! ### Reading -/

theorem exact_decodeNode (t : τ) : Exact (decodeNode t) := by
  refine (ByteReader.exact_number 1).bind fun top => (exact_lift _).bind fun kind => ?_
  split
  · exact exact_pure _
  · dsimp only
    split
    · exact (exact_throw _).bind fun _ => (ByteReader.exact_signed _).bind fun _ => exact_lift _
    · exact (ByteReader.exact_signed _).bind fun _ => exact_lift _

theorem exact_decodeTriple (t : τ) : Exact (KeyFormat.byNodeId.decodeTriple t) :=
  (exact_decodeNode t).bind fun _ => (exact_decodeNode t).bind fun _ =>
    (exact_decodeNode t).bind fun _ => exact_pure _

theorem NodeKey.reads (ht : TwoWay t) (h : NodeKey t n bs) : Reads (decodeNode t) bs n := by
  cases h with
  | any => exact reads_any
  | number hn hid hsmall => exact reads_decodeNode ((ht _ _).1 hid) hn hsmall

theorem NodesKey.reads_node (ht : TwoWay t) (h : NodesKey t [n] bs) :
    Reads (KeyFormat.byNodeId.decodeNode t) bs n := by
  cases h with
  | cons hn hnil =>
    cases hnil
    rw [List.append_nil]
    exact hn.reads ht

theorem NodesKey.reads_triple (ht : TwoWay t) (h : NodesKey t q.nodes bs) :
    Reads (KeyFormat.byNodeId.decodeTriple t) bs q := by
  cases h with
  | cons hs h =>
    cases h with
    | cons hp h =>
      cases h with
      | cons ho hnil =>
        cases hnil
        exact reads_decodeTriple (hs.reads ht) (hp.reads ht) (ho.reads ht)

/-! ### The keys -/

/-- An encoder that stores the nodes of a list when it begins with the table `t`. -/
structure StoresNodes (t : τ) (ns : List Node) (x : KeyUse → EncodeM τ Bool) : Prop where
  /-- It has ever succeeded exactly if the nodes can get numbers, and these it gives. -/
  appends_iff (t' : τ) : (∃ bs, Appends (x .store) t true bs t') ↔ Numbers t ns t'
  /-- It then writes to all buffers with room for its bytes, at most nine for every node. -/
  writes {t' : τ} (h : Numbers t ns t') :
    ∃ bs, bs.length ≤ 9 * ns.length ∧ Writes (fun _ => False) (x .store) t true bs t'
  /-- In the table after it, numbers and nodes belong together, and all nodes keep their numbers. -/
  keeps {t' : τ} (h : Numbers t ns t') : TwoWay t' ∧ KeptIn t t'
  /-- Nodes that the table knows get no other numbers. -/
  knows (h : ∀ n ∈ ns, Knows t n) : Numbers t ns t

/-- An encoder that looks up the nodes of a list in the table `t`. -/
structure LooksUpNodes (t : τ) (ns : List Node) (x : KeyUse → EncodeM τ Bool) : Prop where
  /-- It leaves the table as it is, also when it fails. -/
  table_eq (b : Scratch) : ((x .lookup).run.run ⟨b, t⟩).2.table = t
  /-- Unless its bytes, at most nine for every node, have no room in the buffer, it finds the nodes
  if the table knows them all, and else finds nothing. -/
  finds : ∃ found bs, bs.length ≤ 9 * ns.length ∧
    Writes (fun _ => False) (x .lookup) t found bs t ∧ (found = true ↔ ∀ n ∈ ns, Knows t n)
  /-- It does what storing does if the table knows all nodes. -/
  run_eq (h : ∀ n ∈ ns, Knows t n) (b : Scratch) :
    (x .lookup).run.run ⟨b, t⟩ = (x .store).run.run ⟨b, t⟩

section Lawful

variable [LawfulNodeIds τ]

theorem storesNodes (ht : TwoWay t) (hsmall : Small t) (ns : List Node) :
    StoresNodes t ns fun use => KeyFormat.byNodeId.encodeNodes use ns where
  appends_iff _ := exists_appends_iff
  writes h := by
    obtain ⟨bs, hkey, hwrites⟩ := h.writes (E := fun _ => False)
    exact ⟨bs, hkey.length_le, hwrites⟩
  keeps h := ⟨h.twoWay ht, h.keptIn⟩
  knows h := numbers_of_knows hsmall h

theorem looksUpNodes (hsmall : Small t) (ns : List Node) :
    LooksUpNodes t ns fun use => KeyFormat.byNodeId.encodeNodes use ns where
  table_eq b := (keeps_encodeNodes_lookup t ns ⟨b, t⟩ rfl).1
  finds := writes_lookups hsmall ns
  run_eq := run_lookups_eq_stores

/-- **Keys that hold numbers are read back.** With a table in which numbers and nodes belong
together, whatever was stored for a node or for a triple, in a table whose numbers are still there,
is read as that node or triple in front of all other bytes, and these are left; it does not begin
with what was stored for another node or triple; and without its end it is corrupt. With small
numbers, a node or a triple can be stored exactly if its nodes can get small numbers, and a lookup
agrees with that: it gives no numbers, finds the nodes if all but wildcards have numbers, and does
then what storing does. Every small number is written in one of four widths, and read in it as the
same number, never as a negative one. -/
theorem number_keys_read_back :
    (∀ t : τ, TwoWay t →
      ReadsBack (KeyFormat.byNodeId.decodeNode t)
        (fun n bs => ∃ t₀ t₁, Appends (KeyFormat.byNodeId.encodeNode n .store) t₀ true bs t₁ ∧
          KeptIn t₁ t) ∧
      ReadsBack (KeyFormat.byNodeId.decodeTriple t)
        (fun q bs => ∃ t₀ t₁, Appends (KeyFormat.byNodeId.encodeTriple q .store) t₀ true bs t₁ ∧
          KeptIn t₁ t)) ∧
    (∀ t : τ, TwoWay t → Small t →
      (∀ n, StoresNodes t [n] (KeyFormat.byNodeId.encodeNode n) ∧
        LooksUpNodes t [n] (KeyFormat.byNodeId.encodeNode n)) ∧
      ∀ q : Triple, StoresNodes t q.nodes (KeyFormat.byNodeId.encodeTriple q) ∧
        LooksUpNodes t q.nodes (KeyFormat.byNodeId.encodeTriple q)) ∧
    ∀ id < 1 <<< 63, 1 <<< sizeOf id ∈ [1, 2, 4, 8] ∧
      Reads (ByteReader.signed (1 <<< sizeOf id)) (leBytes (1 <<< sizeOf id) id) (id : Int) := by
  refine ⟨fun t ht => ⟨(exact_decodeNode t).readsBack ?_, (exact_decodeTriple t).readsBack ?_⟩,
    fun t ht hsmall => ⟨fun n => ?_, fun q => ?_⟩, fun id hid => ?_⟩
  · rintro n bs ⟨t₀, t₁, h, hkept⟩
    rw [← encodeNodes_singleton] at h
    exact ((nodesKey_of_appends h).mono hkept).reads_node ht
  · rintro q bs ⟨t₀, t₁, h, hkept⟩
    have hkey : NodesKey t₁ q.nodes bs := nodesKey_of_appends h
    exact (hkey.mono hkept).reads_triple ht
  · rw [← funext (encodeNodes_singleton n)]
    exact ⟨storesNodes ht hsmall [n], looksUpNodes hsmall [n]⟩
  · exact ⟨storesNodes ht hsmall q.nodes, looksUpNodes hsmall q.nodes⟩
  · have hwidth := one_shiftLeft_sizeOf_mem id
    exact ⟨hwidth, ByteReader.reads_signed hwidth (two_mul_lt hid)⟩

/-- A pattern is stored in a table without numbers, where it can be stored and both of its nodes get
numbers. It is read back in front of a byte that would be the key of the wildcard. A lookup of
another node finds nothing then, and the first number of two bytes is not taken for a negative
one. -/
theorem number_keys_read_back_pattern :
    let q : Triple := ⟨.uri "s", .any, .literal ⟨"5", .datatype "integer"⟩⟩
    let t := ((NodeTable.empty.allocate q.s).2.allocate q.o).2
    (TwoWay t ∧ Small t) ∧
    (∃ bs, Appends (KeyFormat.byNodeId.encodeTriple q .store) NodeTable.empty true bs t ∧
      (KeyFormat.byNodeId.decodeTriple t).run.run ⟨bs ++ [0x30], 0⟩
        = (.ok q, ⟨[0x30], bs.length⟩)) ∧
    (∃ bs, Writes (fun _ => False)
      (KeyFormat.byNodeId.encodeNode (.uri "p") .lookup) t false bs t) ∧
    Reads (ByteReader.signed 2) [128, 0] 128 := by
  intro q t
  obtain ⟨hback, hkeys, hwidths⟩ := number_keys_read_back (τ := NodeTable)
  have hext : NodeTable.empty.Extends t :=
    (NodeTable.extends_allocate _ _).trans (NodeTable.extends_allocate _ _)
  have hsize : t.size = 2 := by decide +kernel
  have hfits : t.Fits := by rw [NodeTable.Fits, hsize]; decide
  have htwoWay : TwoWay t := NodeTable.twoWay hext
  have hsmall : Small t := NodeTable.small hext hfits
  have hnumbers : Numbers NodeTable.empty q.nodes t :=
    .node (by decide) rfl (by decide +kernel)
      (.any (.node (by decide) rfl (by decide +kernel) (.nil t)))
  have hempty := hkeys NodeTable.empty (NodeTable.twoWay .refl)
    (NodeTable.small .refl (Nat.two_pow_pos 63))
  obtain ⟨bs, hstored⟩ := ((hempty.2 q).1.appends_iff t).2 hnumbers
  refine ⟨⟨htwoWay, hsmall⟩, ⟨bs, hstored, ?_⟩, ?_, (hwidths 128 (by decide)).2⟩
  · simpa using (hback t htwoWay).2.reads ⟨_, _, hstored, .refl t⟩ [0x30] 0
  · obtain ⟨found, bs, -, hwrites, hfound⟩ := ((hkeys t htwoWay hsmall).1 (.uri "p")).2.finds
    have hunknown : t.idFor? (.uri "p") = none := by decide +kernel
    cases found with
    | false => exact ⟨bs, hwrites⟩
    | true =>
      rcases hfound.1 rfl _ List.mem_cons_self with hany | ⟨id, hid⟩
      · cases hany
      · exact absurd (hunknown.symm.trans hid) (by simp)

end Lawful

end Clearance.ByNodeId
