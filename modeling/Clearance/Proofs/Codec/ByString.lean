import Clearance.Codec.ByString
import Clearance.Proofs.Bytes.Utf8
import Clearance.Proofs.Codec.Reads
import Clearance.Proofs.Codec.Writes
import Clearance.Proofs.Node.Term
import Clearance.Proofs.Pattern

/-!
# Keys that hold the texts of nodes are read back

A node is written as certain bytes and read back from them, and so is a triple, as long as the
lengths of the bodies can be written in four bytes.

## Main definitions

* `Clearance.ByString.nodeBytes`, `Clearance.ByString.tripleBytes` — the bytes of nodes and triples.
* `Clearance.ByString.Short` — nodes whose lengths can be written.

## Main results

* `Clearance.ByString.writes_encodeNode`, `Clearance.ByString.writes_encodeTriple` — writing.
* `Clearance.ByString.reads_decodeNode`, `Clearance.ByString.reads_decodeTriple` — reading.
-/

namespace Clearance.ByString

open DecodeM EncodeM

variable {τ : Type} {E : Error → Prop} {n : Node} {t : Triple}

/-- The header of a node. -/
def headerBytes (n : Node) : Bytes := [UInt8.ofNat n.kind.tag] ++ leBytes 4 (body n).length

/-- The bytes of a node. -/
def nodeBytes (n : Node) : Bytes := headerBytes n ++ body n

/-- The bytes of a triple. -/
def tripleBytes (t : Triple) : Bytes :=
  t.nodes.flatMap headerBytes ++ (t.nodes.map body).flatten

/-- Whether the length of the body of a node can be written. -/
def Short (n : Node) : Prop := (body n).length < wordSize

theorem short_any : Short .any := by
  show 0 < wordSize
  decide

/-! ### Writing -/

theorem writes_putHeader (h : Short n) (table : τ) :
    Writes E (putHeader n.kind (body n).length) table () (headerBytes n) table := by
  unfold putHeader
  rw [if_neg (Nat.not_le_of_lt h)]
  exact (writes_put _ table).bind (writes_put _ table)

theorem writes_encodeNode (h : Short n) (table : τ) :
    Writes E (encodeNode n) table () (nodeBytes n) table :=
  (writes_putHeader h table).bind (writes_put _ table)

theorem writes_encodeTriple (h : ∀ n ∈ t.nodes, Short n) (table : τ) :
    Writes E (encodeTriple t) table () (tripleBytes t) table :=
  (writes_forM fun n hn => writes_putHeader (h n hn) table).bind (writes_putAll table _)

/-! ### What was written -/

section Written

variable {sheet sheet' : Sheet τ}

theorem short_of_run_putHeader
    (h : (putHeader n.kind (body n).length).run.run sheet = (.ok (), sheet')) : Short n := by
  unfold putHeader at h
  by_cases hlong : wordSize ≤ (body n).length
  · rw [if_pos hlong] at h
    cases h
  · exact Nat.lt_of_not_le hlong

/-- Only short nodes are written. -/
theorem short_of_run_encodeNode (h : (encodeNode n).run.run sheet = (.ok (), sheet')) :
    Short n := by
  obtain ⟨_, _, hheader, -⟩ := run_bind_eq_ok h
  exact short_of_run_putHeader hheader

theorem short_of_run_forM : ∀ {ns : List Node} {sheet : Sheet τ},
    (ns.forM fun n => putHeader n.kind (body n).length).run.run sheet = (.ok (), sheet') →
      ∀ n ∈ ns, Short n
  | [], _, _, n, hn => by cases hn
  | m :: ns, sheet, h, n, hn => by
    obtain ⟨_, _, hheader, hrest⟩ := run_bind_eq_ok h
    rcases List.mem_cons.1 hn with rfl | hn
    · exact short_of_run_putHeader hheader
    · exact short_of_run_forM hrest n hn

/-- Only triples of short nodes are written. -/
theorem short_of_run_encodeTriple (h : (encodeTriple t).run.run sheet = (.ok (), sheet')) :
    ∀ n ∈ t.nodes, Short n := by
  obtain ⟨_, _, hheaders, -⟩ := run_bind_eq_ok h
  exact short_of_run_forM hheaders

end Written

/-! ### Lengths and kinds -/

theorem length_headerBytes (n : Node) : (headerBytes n).length = 5 := by
  rw [headerBytes, List.length_append, length_leBytes]
  rfl

theorem length_nodeBytes (n : Node) : (nodeBytes n).length = 5 + (body n).length := by
  rw [nodeBytes, List.length_append, length_headerBytes]

theorem length_tripleBytes (t : Triple) : (tripleBytes t).length
    = 15 + (body t.s).length + (body t.p).length + (body t.o).length := by
  simp only [tripleBytes, Triple.nodes, List.flatMap_cons, List.flatMap_nil, List.map_cons,
    List.map_nil, List.flatten_cons, List.flatten_nil, List.length_append, length_headerBytes,
    List.length_nil]
  omega

/-- The bytes of a triple tell the kind of its object. -/
theorem getElem?_tripleBytes (t : Triple) :
    (tripleBytes t)[10]? = some (UInt8.ofNat t.o.kind.tag) := by
  have hsplit : tripleBytes t = headerBytes t.s ++ (headerBytes t.p ++ (UInt8.ofNat t.o.kind.tag ::
      (leBytes 4 (body t.o).length ++ (t.nodes.map body).flatten))) := by
    simp [tripleBytes, Triple.nodes, headerBytes]
  have hs := length_headerBytes t.s
  have hp := length_headerBytes t.p
  rw [hsplit, List.getElem?_append_right (by omega), hs, List.getElem?_append_right (by omega), hp]
  rfl

/-! ### Reading -/

theorem reads_header (h : Short n) : Reads header (headerBytes n) (n.kind, (body n).length) :=
  (ByteReader.reads_kind n.kind).bind ((ByteReader.reads_number h).bind_nil (reads_pure _))

theorem nodeOfBody_body (n : Node) : nodeOfBody n.kind (body n) = .ok n := by
  rw [nodeOfBody, body, Utf8.decode_encode]
  cases n with
  | uri iri => exact congrArg (fun s => Except.ok (Node.uri s)) String.ofList_toList
  | literal l => exact Node.ofTerm_term (.literal l)
  | blank label => exact congrArg (fun s => Except.ok (Node.blank s)) String.ofList_toList
  | any => rfl

theorem reads_takeBody (n : Node) : Reads (takeBody (n.kind, (body n).length)) (body n) n := by
  refine (ByteReader.reads_take rfl).bind_nil (reads_lift ?_)
  rw [nodeOfBody_body]
  rfl

/-- **A node is read back from its bytes.** -/
theorem reads_decodeNode (h : Short n) : Reads decodeNode (nodeBytes n) n :=
  (reads_header h).bind (reads_takeBody n)

/-- **A triple is read back from its bytes.** -/
theorem reads_decodeTriple (h : ∀ n ∈ t.nodes, Short n) :
    Reads decodeTriple (tripleBytes t) t := by
  simp only [Triple.nodes, List.forall_mem_cons] at h
  obtain ⟨hs, hp, ho, -⟩ := h
  simp only [tripleBytes, Triple.nodes, List.flatMap_cons, List.flatMap_nil, List.map_cons,
    List.map_nil, List.flatten_cons, List.flatten_nil, List.append_assoc, List.append_nil]
  refine (reads_header hs).bind <| (reads_header hp).bind <| (reads_header ho).bind ?_
  exact (reads_takeBody t.s).bind <| (reads_takeBody t.p).bind <|
    (reads_takeBody t.o).bind_nil (reads_pure t)

end Clearance.ByString
