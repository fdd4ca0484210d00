import Clearance.Codec.Key
import Clearance.Proofs.Codec.ByString
import Clearance.Proofs.Codec.Exactness

/-!
# Keys that hold texts are read back

The keys of nodes and of triples that hold texts are read back as what they were written for,
whatever bytes follow them. So no key begins with the key of another node or triple, and a key that
is cut off is found to be corrupt. That holds of all nodes, the wildcard and literals with any text,
datatype or language among them, whose texts are short enough to be written.

## Main results

* `Clearance.ByString.appends_encodeNode_iff`, `Clearance.ByString.appends_encodeTriple_iff` — which
  keys are written.
* `Clearance.ByString.exact_decodeNode`, `Clearance.ByString.exact_decodeTriple` — what is taken.
* `Clearance.ByString.text_keys_read_back` — the keys are read back.
-/

namespace Clearance.ByString

open DecodeM EncodeM

variable {τ : Type} [NodeIds τ] {t t' : τ} {n : Node} {q : Triple} {bs : Bytes} {use : KeyUse}

/-! ### Which keys are written -/

theorem appends_encodeNode_iff : Appends (KeyFormat.byString.encodeNode n use) t true bs t' ↔
    Short n ∧ bs = nodeBytes n ∧ t' = t := by
  have hwrites (hshort : Short n) : Writes (fun _ => False) (KeyFormat.byString.encodeNode n use) t
      true (nodeBytes n) t := (writes_encodeNode hshort t).bind_pure true
  constructor
  · intro h
    obtain ⟨b, -, hrun⟩ := id h
    obtain ⟨_, _, hnode, -⟩ := run_bind_eq_ok hrun
    have hshort := short_of_run_encodeNode hnode
    exact ⟨hshort, (hwrites hshort).appends_iff.1 h⟩
  · rintro ⟨hshort, h⟩
    exact (hwrites hshort).appends_iff.2 h

theorem appends_encodeTriple_iff : Appends (KeyFormat.byString.encodeTriple q use) t true bs t' ↔
    (∀ n ∈ q.nodes, Short n) ∧ bs = tripleBytes q ∧ t' = t := by
  have hwrites (hshort : ∀ n ∈ q.nodes, Short n) : Writes (fun _ => False)
      (KeyFormat.byString.encodeTriple q use) t true (tripleBytes q) t :=
    (writes_encodeTriple hshort t).bind_pure true
  constructor
  · intro h
    obtain ⟨b, -, hrun⟩ := id h
    obtain ⟨_, _, htriple, -⟩ := run_bind_eq_ok hrun
    have hshort := short_of_run_encodeTriple htriple
    exact ⟨hshort, (hwrites hshort).appends_iff.1 h⟩
  · rintro ⟨hshort, h⟩
    exact (hwrites hshort).appends_iff.2 h

/-! ### What is taken -/

theorem exact_header : Exact header :=
  ByteReader.exact_kind.bind fun _ => (ByteReader.exact_number 4).bind fun _ => exact_pure _

theorem exact_takeBody (header : NodeKind × Nat) : Exact (takeBody header) :=
  (ByteReader.exact_take header.2).bind fun _ => exact_lift _

theorem exact_decodeNode : Exact decodeNode := exact_header.bind exact_takeBody

theorem exact_decodeTriple : Exact decodeTriple :=
  exact_header.bind fun s => exact_header.bind fun p => exact_header.bind fun o =>
    (exact_takeBody s).bind fun _ => (exact_takeBody p).bind fun _ =>
      (exact_takeBody o).bind fun _ => exact_pure _

/-- **Keys that hold texts are read back.** Whatever was written for a node or for a triple, for any
use and with any buffer, is read as that node or triple in front of all other bytes, and these are
left; it does not begin with what was written for another node or triple; and without its end it is
corrupt. A node is written exactly if the length of its text fits its field, and a triple if its
nodes are. -/
theorem text_keys_read_back (table : τ) :
    ReadsBack (KeyFormat.byString.decodeNode table)
      (fun n bs => ∃ use, ∃ t t' : τ, Appends (KeyFormat.byString.encodeNode n use) t true bs t') ∧
    ReadsBack (KeyFormat.byString.decodeTriple table)
      (fun q bs => ∃ use, ∃ t t' : τ,
        Appends (KeyFormat.byString.encodeTriple q use) t true bs t') ∧
    (∀ n use, ∀ t : τ, (∃ bs t', Appends (KeyFormat.byString.encodeNode n use) t true bs t') ↔
      (body n).length < wordSize) ∧
    ∀ q use, ∀ t : τ, (∃ bs t', Appends (KeyFormat.byString.encodeTriple q use) t true bs t') ↔
      ∀ n ∈ q.nodes, (body n).length < wordSize := by
  refine ⟨exact_decodeNode.readsBack ?_, exact_decodeTriple.readsBack ?_, fun n use t => ⟨?_, ?_⟩,
    fun q use t => ⟨?_, ?_⟩⟩
  · rintro n bs ⟨use, t, t', h⟩
    obtain ⟨hshort, rfl, -⟩ := appends_encodeNode_iff.1 h
    exact reads_decodeNode hshort
  · rintro q bs ⟨use, t, t', h⟩
    obtain ⟨hshort, rfl, -⟩ := appends_encodeTriple_iff.1 h
    exact reads_decodeTriple hshort
  · rintro ⟨bs, t', h⟩
    exact (appends_encodeNode_iff.1 h).1
  · intro hshort
    exact ⟨_, _, appends_encodeNode_iff.2 ⟨hshort, rfl, rfl⟩⟩
  · rintro ⟨bs, t', h⟩
    exact (appends_encodeTriple_iff.1 h).1
  · intro hshort
    exact ⟨_, _, appends_encodeTriple_iff.2 ⟨hshort, rfl, rfl⟩⟩

/-- A literal that looks like the end of a term, beside the wildcard. Its key is read back in front
of other bytes, is no beginning of the key of a triple with a text that goes on, and is corrupt
without its last byte. -/
theorem text_keys_read_back_quoted :
    let q : Triple := ⟨.blank ">", .any, .literal ⟨"\\\"", .datatype "a>b"⟩⟩
    let q' : Triple := ⟨.blank ">", .any, .literal ⟨"\\\"", .language "^^<a>b>"⟩⟩
    ∃ bs bs' : Bytes,
      Appends (KeyFormat.byString.encodeTriple q .store) NodeTable.empty true bs NodeTable.empty ∧
      Appends (KeyFormat.byString.encodeTriple q' .store) NodeTable.empty true bs' NodeTable.empty ∧
      (KeyFormat.byString.decodeTriple NodeTable.empty).run.run ⟨bs ++ [0x22], 0⟩
        = (.ok q, ⟨[0x22], bs.length⟩) ∧
      ¬ bs <+: bs' ∧
      ∃ fault r, (KeyFormat.byString.decodeTriple NodeTable.empty).run.run ⟨bs.take 28, 0⟩
        = (.error (.corrupt fault), r) := by
  intro q q'
  obtain ⟨-, hback, -, hwritten⟩ := text_keys_read_back NodeTable.empty
  have hq : Appends (KeyFormat.byString.encodeTriple q .store) NodeTable.empty true (tripleBytes q)
      NodeTable.empty := appends_encodeTriple_iff.2 ⟨by simp only [Short]; decide, rfl, rfl⟩
  have hq' : Appends (KeyFormat.byString.encodeTriple q' .store) NodeTable.empty true
      (tripleBytes q')
      NodeTable.empty := appends_encodeTriple_iff.2 ⟨by simp only [Short]; decide, rfl, rfl⟩
  have hlength : (tripleBytes q).length = 29 := by decide
  refine ⟨_, _, hq, hq', ?_, hback.apart ⟨_, _, _, hq⟩ ⟨_, _, _, hq'⟩ (by decide), ?_⟩
  · simpa using hback.reads ⟨_, _, _, hq⟩ [0x22] 0
  · exact hback.cut ⟨_, _, _, hq⟩ (by omega) 0

end Clearance.ByString
