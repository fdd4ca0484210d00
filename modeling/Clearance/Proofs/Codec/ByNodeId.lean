import Clearance.Proofs.Codec.Reads
import Clearance.Proofs.Codec.TableGrowth
import Clearance.Proofs.Codec.Writes

/-!
# Keys that hold the numbers of nodes are read back

A node with a number is written as certain bytes, and read back from them with every table in which
the number has the node. To store a node without a number gives it the next one, unless this is too
large to be written. To look such a node up writes nothing.

## Main definitions

* `Clearance.ByNodeId.nodeBytes?` — the bytes of a node that has a number.
* `Clearance.ByNodeId.tableAfter` — a table of nodes after a node was stored.
* `Clearance.ByNodeId.OutOfRange` — the refusal of numbers that are too large.

## Main results

* `Clearance.ByNodeId.writes_known`, `Clearance.ByNodeId.writes_unknown`,
  `Clearance.ByNodeId.writes_store` — writing.
* `Clearance.ByNodeId.reads_decodeNode`, `Clearance.ByNodeId.reads_decodeTriple` — reading.
-/

namespace Clearance.ByNodeId

open DecodeM EncodeM NodeTable

variable {E : Error → Prop} {n : Node} {id : Nat} {bs : Bytes} {t t' : NodeTable}

/-- The bytes of a node of a given kind with a given number. -/
def numberBytes (kind : NodeKind) (id : Nat) : Bytes :=
  [topByte kind (sizeOf id)] ++ leBytes (1 <<< sizeOf id) id

/-- The bytes of a node, if it is the wildcard or has a number. -/
def nodeBytes? (t : NodeTable) (n : Node) : Option Bytes :=
  if n = .any then some [topByte .any 0] else (t.idFor? n).map (numberBytes n.kind)

/-- A table after a node was stored. The wildcard needs no number. -/
def tableAfter (t : NodeTable) (n : Node) : NodeTable := if n = .any then t else (t.allocate n).2

/-- The refusal of a number that is too large, but at most `count`. -/
def OutOfRange (count : Nat) (e : Error) : Prop :=
  ∃ id, e = .invalid (.idOutOfRange id) ∧ 1 <<< 63 ≤ id ∧ id ≤ count

theorem OutOfRange.mono {count count' : Nat} {e : Error} (h : OutOfRange count e)
    (hle : count ≤ count') : OutOfRange count' e := by
  obtain ⟨id, he, hlarge, hid⟩ := h
  exact ⟨id, he, hlarge, Nat.le_trans hid hle⟩

/-! ### Tables -/

theorem extends_tableAfter (t : NodeTable) (n : Node) : t.Extends (tableAfter t n) := by
  unfold tableAfter
  split
  · exact .refl
  · exact extends_allocate t n

theorem nodeBytes?_tableAfter (hn : n ≠ .any) :
    nodeBytes? (tableAfter t n) n = some (numberBytes n.kind (t.allocate n).1) := by
  rw [nodeBytes?, tableAfter, if_neg hn, if_neg hn, idFor?_allocate]
  rfl

/-- The bytes of a node stay when the table grows. -/
theorem nodeBytes?_mono (h : t.Extends t') (hbs : nodeBytes? t n = some bs) :
    nodeBytes? t' n = some bs := by
  unfold nodeBytes? at hbs ⊢
  split
  · next hany => rwa [if_pos hany] at hbs
  · next hany =>
    rw [if_neg hany] at hbs
    obtain ⟨id, hid, rfl⟩ := Option.map_eq_some_iff.1 hbs
    rw [h.idFor?_eq hid]
    rfl

theorem le_size_of_idFor? (ht : empty.Extends t) (h : t.idFor? n = some id) : id ≤ t.size :=
  (le_size_of_nodeFor? ((idFor?_eq_some_iff ht).1 h)).2

/-! ### Writing -/

section Writing

variable {τ : Type} {u u' : τ}

/-- What is written for a node with a number. -/
theorem writes_number (n : Node) (u : τ)
    (hid : E (.invalid (.idOutOfRange id)) ∨ id < 1 <<< 63) :
    Writes E (do
      if 1 <<< 63 ≤ id then throw (.invalid (.idOutOfRange id))
      EncodeM.put [topByte n.kind (sizeOf id)]
      EncodeM.put (leBytes (1 <<< sizeOf id) id)
      return true) u true (numberBytes n.kind id) u := by
  by_cases hlarge : 1 <<< 63 ≤ id
  · intro b hb
    rw [if_pos hlarge]
    exact .refused (hid.resolve_right (Nat.not_lt_of_le hlarge))
  · rw [if_neg hlarge]
    exact (writes_put _ u).bind ((writes_put _ u).bind_pure true)

variable [NodeIds τ]

theorem writes_any (use : KeyUse) (u : τ) :
    Writes E (encodeNode .any use) u true [topByte .any 0] u := by
  unfold encodeNode
  rw [if_pos rfl]
  exact (writes_put _ u).bind_pure true

theorem writes_numberOf?_lookup (n : Node) (u : τ) :
    Writes E (numberOf? n .lookup) u (NodeIds.idFor? u n) [] u := by
  intro b hb
  exact writes_pure (NodeIds.idFor? u n) u b hb

theorem run_numberOf?_of_allocate (h : NodeIds.allocate u n = .ok (id, u')) (b : Scratch) :
    (numberOf? n .store).run.run ⟨b, u⟩ = (.ok (some id), ⟨b, u'⟩) := by
  unfold numberOf?
  rw [run_get_bind]
  dsimp only
  rw [h]
  rfl

theorem writes_numberOf?_store (h : NodeIds.allocate u n = .ok (id, u')) :
    Writes E (numberOf? n .store) u (some id) [] u' := by
  intro b hb
  rw [run_numberOf?_of_allocate h]
  exact writes_pure (some id) u' b hb

/-- Writing a node once its number is known. -/
theorem writes_numbered {use : KeyUse} (hn : n ≠ .any)
    (hnumber : Writes E (numberOf? n use) u (some id) [] u')
    (hid : E (.invalid (.idOutOfRange id)) ∨ id < 1 <<< 63) :
    Writes E (encodeNode n use) u true (numberBytes n.kind id) u' := by
  unfold encodeNode
  rw [if_neg hn]
  exact hnumber.bind_nil (writes_number n u' hid)

/-- Looking up a node without a number writes nothing. -/
theorem writes_unnumbered (hn : n ≠ .any) (h : NodeIds.idFor? u n = none) :
    Writes E (encodeNode n .lookup) u false [] u := by
  have hnumber := writes_numberOf?_lookup (E := E) n u
  rw [h] at hnumber
  unfold encodeNode
  rw [if_neg hn]
  exact hnumber.bind_nil (writes_pure false u)

end Writing

/-- Writing a node that has a number gives no other numbers. -/
theorem writes_known (ht : empty.Extends t) (hfits : t.Fits) (h : nodeBytes? t n = some bs)
    (use : KeyUse) : Writes E (encodeNode n use) t true bs t := by
  by_cases hn : n = .any
  · subst hn
    cases h
    exact writes_any use t
  rw [nodeBytes?, if_neg hn] at h
  obtain ⟨id, hid, rfl⟩ := Option.map_eq_some_iff.1 h
  have hnumber : Writes E (numberOf? n use) t (some id) [] t := by
    cases use with
    | lookup => exact hid ▸ writes_numberOf?_lookup n t
    | store =>
      have hallocate : t.allocate n = (id, t) := by simp only [allocate, hid]
      exact writes_numberOf?_store (congrArg Except.ok hallocate)
  have hsmall : id < 1 <<< 63 := Nat.lt_of_le_of_lt (le_size_of_idFor? ht hid) hfits
  exact writes_numbered hn hnumber (.inr hsmall)

/-- Looking up a node without a number. -/
theorem writes_unknown (h : nodeBytes? t n = none) :
    Writes E (encodeNode n .lookup) t false [] t := by
  have hn : n ≠ .any := by
    rintro rfl
    cases h
  rw [nodeBytes?, if_neg hn, Option.map_eq_none_iff] at h
  exact writes_unnumbered hn h

/-- **Storing a node.** It has a number then. -/
theorem writes_store (ht : empty.Extends t) (n : Node) :
    ∃ bs, nodeBytes? (tableAfter t n) n = some bs ∧
      Writes (OutOfRange (tableAfter t n).size) (encodeNode n .store) t true bs
        (tableAfter t n) := by
  by_cases hn : n = .any
  · subst hn
    exact ⟨_, rfl, writes_any .store t⟩
  refine ⟨_, nodeBytes?_tableAfter hn, ?_⟩
  have hid := le_size_of_idFor? (ht.trans (extends_allocate t n)) (idFor?_allocate t n)
  unfold tableAfter
  rw [if_neg hn]
  refine writes_numbered hn (writes_numberOf?_store rfl) ?_
  by_cases hlarge : 1 <<< 63 ≤ (t.allocate n).1
  · exact .inl ⟨_, rfl, hlarge, hid⟩
  · exact .inr (Nat.lt_of_not_le hlarge)

/-! ### Reading -/

theorem sizeOf_le (id : Nat) : sizeOf id ≤ 3 := by
  unfold sizeOf
  split
  · omega
  split
  · omega
  split
  · omega
  · omega

theorem one_shiftLeft_sizeOf_mem (id : Nat) : 1 <<< sizeOf id ∈ ByteReader.signedWidths := by
  have hsize := sizeOf_le id
  rcases h : sizeOf id with _ | _ | _ | _ | size
  · decide
  · decide
  · decide
  · decide
  · omega

theorem two_mul_lt (h : id < 1 <<< 63) : 2 * id < 1 <<< (8 * (1 <<< sizeOf id)) := by
  unfold sizeOf
  split
  · show 2 * id < 256
    omega
  split
  · show 2 * id < 65536
    omega
  split
  · show 2 * id < 4294967296
    omega
  · show 2 * id < 18446744073709551616
    omega

theorem reads_top (kind : NodeKind) {size : Nat} (h : size ≤ 3) :
    Reads (ByteReader.number 1) [topByte kind size] (16 * kind.tag + size) := by
  have htag : kind.tag ≤ 3 := by cases kind <;> decide
  have hsmall : 16 * kind.tag + size < 256 := by omega
  have hbytes : leBytes 1 (16 * kind.tag + size) = [topByte kind size] := by
    rw [leBytes, leBytes, topByte, Nat.mod_eq_of_lt hsmall]
  exact hbytes ▸ ByteReader.reads_number hsmall

theorem kindOf_tag (kind : NodeKind) : ByteReader.kindOf kind.tag = .ok kind := by
  cases kind <;> rfl

variable {τ : Type} [NodeIds τ] {table : τ}

theorem reads_any : Reads (decodeNode table) [topByte .any 0] .any :=
  (reads_top .any (Nat.zero_le 3)).bind_nil ((reads_lift rfl).bind_nil (reads_pure Node.any))

/-- **A node is read back from its bytes** with a table in which its number has it. -/
theorem reads_decodeNode (hnode : NodeIds.nodeFor? table id = some n) (hn : n ≠ .any)
    (hid : id < 1 <<< 63) : Reads (decodeNode table) (numberBytes n.kind id) n := by
  have hsize := sizeOf_le id
  have hkind : n.kind ≠ .any := by
    cases n with
    | any => exact absurd rfl hn
    | _ => simp [Node.kind]
  have hdiv : (16 * n.kind.tag + sizeOf id) / 16 = n.kind.tag := by omega
  have hmod : (16 * n.kind.tag + sizeOf id) % 16 = sizeOf id := by omega
  have hwidth := one_shiftLeft_sizeOf_mem id
  have hfound : nodeOfId table n.kind (id : Int) = .ok n := by
    rw [nodeOfId, if_neg (by omega), Int.toNat_natCast, hnode]
    exact if_pos rfl
  unfold decodeNode
  refine (reads_top n.kind hsize).bind ?_
  rw [hdiv, hmod, kindOf_tag]
  refine (reads_lift rfl).bind ?_
  rw [if_neg hkind]
  dsimp only
  rw [if_neg (Nat.not_lt_of_le hsize)]
  refine (ByteReader.reads_signed hwidth (two_mul_lt hid)).bind_nil (reads_lift ?_)
  rw [hfound]
  rfl

/-- A triple is read back from what its nodes are read back from. -/
theorem reads_decodeTriple {q : Triple} {bs bs' bs'' : Bytes} (hs : Reads (decodeNode table) bs q.s)
    (hp : Reads (decodeNode table) bs' q.p) (ho : Reads (decodeNode table) bs'' q.o) :
    Reads (KeyFormat.byNodeId.decodeTriple table) (bs ++ (bs' ++ (bs'' ++ []))) q :=
  hs.bind (hp.bind (ho.bind (reads_pure q)))

/-- A node is read back with the table that its bytes were made with. -/
theorem reads_of_nodeBytes? (ht : empty.Extends t) (hfits : t.Fits) (h : nodeBytes? t n = some bs) :
    Reads (decodeNode t) bs n := by
  by_cases hn : n = .any
  · subst hn
    cases h
    exact reads_any
  rw [nodeBytes?, if_neg hn] at h
  obtain ⟨id, hid, rfl⟩ := Option.map_eq_some_iff.1 h
  have hsmall : id < 1 <<< 63 := Nat.lt_of_le_of_lt (le_size_of_idFor? ht hid) hfits
  exact reads_decodeNode ((idFor?_eq_some_iff ht).1 hid) hn hsmall

end Clearance.ByNodeId
