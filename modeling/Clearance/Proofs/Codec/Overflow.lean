import Clearance.Proofs.Codec.HashedKeys
import Clearance.Proofs.Codec.LabelList
import Clearance.Proofs.Codec.NumberedKeys

/-!
# Encoders fill buffers or overflow

An encoder that has something to write appends all of it to a buffer with room for it, and changes
nothing else. If there is no room, it fails with an overflow, and the buffer ends with a proper part
of what was to be written, up to the first field that did not fit. This holds of nodes and triples
in every key format, written to be stored and to be looked up, and of lists of labels.

## Main definitions

* `Clearance.EncodeM.Fills` — encoders that write certain bytes as a whole or overflow.
* `Clearance.KeyFormat.Encodable` — nodes that can be written.
* `Clearance.KeyFormat.NodeEncoding`, `Clearance.KeyFormat.TripleEncoding` — what is to be written.

## Main results

* `Clearance.EncodeM.Writes.fills` — encoders that nothing but a buffer can keep from writing.
* `Clearance.KeyFormat.encoders_fill_buffers` — nodes, triples and lists of labels.
-/

namespace Clearance

namespace EncodeM

variable {τ α : Type} {x : EncodeM τ α} {t t' : τ} {a : α} {bs : Bytes}

/-- An encoder that writes `bs` as a whole or overflows when it begins with the table `t`; if it
succeeds, it answers `a` and leaves the table `t'`. No buffer holds more bytes than its capacity. -/
structure Fills (x : EncodeM τ α) (t : τ) (a : α) (bs : Bytes) (t' : τ) : Prop where
  /-- It succeeds exactly if the bytes of the buffer and its own fit the capacity. -/
  succeeds_iff (b : Scratch) (hb : b.bytes.length ≤ b.capacity) :
    (∃ a, (x.run.run ⟨b, t⟩).1 = .ok a) ↔ b.bytes.length + bs.length ≤ b.capacity
  /-- If they fit, its own bytes stand behind those of the buffer. -/
  fits (b : Scratch) (h : b.bytes.length + bs.length ≤ b.capacity) :
    x.run.run ⟨b, t⟩ = (.ok a, ⟨{ b with bytes := b.bytes ++ bs }, t'⟩)
  /-- If they do not fit, a proper part of its own bytes stands behind those of the buffer, within
  the capacity, and the error tells of more bytes than the capacity. -/
  overflows (b : Scratch) (hb : b.bytes.length ≤ b.capacity)
    (h : b.capacity < b.bytes.length + bs.length) : ∃ needed part last,
    x.run.run ⟨b, t⟩
      = (.error (.overflow needed b.capacity), ⟨{ b with bytes := b.bytes ++ part }, last⟩) ∧
    b.capacity < needed ∧ part <+: bs ∧ part ≠ bs ∧ b.bytes.length + part.length ≤ b.capacity

/-- Encoders that nothing but a buffer can keep from writing write as a whole or overflow. -/
theorem Writes.fills (hx : Writes (fun _ => False) x t a bs t') : Fills x t a bs t' := by
  have hoverflows : ∀ b : Scratch, b.bytes.length ≤ b.capacity →
      b.capacity < b.bytes.length + bs.length → ∃ needed part last,
      x.run.run ⟨b, t⟩
        = (.error (.overflow needed b.capacity), ⟨{ b with bytes := b.bytes ++ part }, last⟩) ∧
      b.capacity < needed ∧ part <+: bs ∧ part ≠ bs ∧
        b.bytes.length + part.length ≤ b.capacity := by
    intro b hb h
    rcases hrun : x.run.run ⟨b, t⟩ with ⟨r, sheet⟩
    have hwrote := hx b hb
    rw [hrun] at hwrote
    cases hwrote with
    | fits hfits => omega
    | refused he => exact he.elim
    | @overflows needed part rest last hbs hpart hneeded hle =>
      refine ⟨needed, part, last, rfl, hneeded, hbs ▸ List.prefix_append part rest, ?_, hpart⟩
      rintro rfl
      omega
  refine ⟨fun b hb => ⟨?_, fun h => ⟨a, ?_⟩⟩, fun b h => hx.run_eq h, hoverflows⟩
  · rintro ⟨a', ha⟩
    refine Nat.le_of_not_lt fun h => ?_
    obtain ⟨needed, part, last, hrun, -⟩ := hoverflows b hb h
    rw [hrun] at ha
    cases ha
  · rw [hx.run_eq h]

end EncodeM

namespace KeyFormat

open EncodeM NodeIds

variable {τ : Type} [NodeIds τ] {format : KeyFormat} {use : KeyUse} {t t' : τ} {n : Node}
  {ns : List Node} {q : Triple}

/-- What nodes must be like for their keys to be written to a large enough buffer when the table is
`t`; the table is `t'` then. -/
inductive Encodable : KeyFormat → KeyUse → τ → List Node → τ → Prop where
  /-- The lengths of texts fit their fields. -/
  | text {use : KeyUse} {t : τ} {ns : List Node} (h : ∀ n ∈ ns, ByString.Short n) :
    Encodable .byString use t ns t
  /-- Nodes that are stored have or get numbers, and these are small. -/
  | stored {t t' : τ} {ns : List Node} (h : ByNodeId.Numbers t ns t') :
    Encodable .byNodeId .store t ns t'
  /-- Nodes that are looked up have numbers, unless they are wildcards, and these are small. -/
  | lookedUp {t : τ} {ns : List Node}
    (h : ∀ n ∈ ns, n = .any ∨ ∃ id, idFor? t n = some id ∧ id < 1 <<< 63) :
    Encodable .byNodeId .lookup t ns t
  /-- All nodes have digests. -/
  | digest {algorithm : DigestAlgorithm} {use : KeyUse} {t : τ} {ns : List Node} :
    Encodable (.byHash algorithm) use t ns t

/-- The key of a node: its text, its number in a table, or a digest of its text. -/
inductive NodeEncoding (t : τ) : KeyFormat → Node → Bytes → Prop where
  /-- The kind and the text. -/
  | text (n : Node) : NodeEncoding t .byString n (ByString.nodeBytes n)
  /-- The kind and the number. -/
  | number {n : Node} {bs : Bytes} (h : ByNodeId.NodeKey t n bs) : NodeEncoding t .byNodeId n bs
  /-- The digest. -/
  | digest (algorithm : DigestAlgorithm) (n : Node) : NodeEncoding t (.byHash algorithm) n
    (algorithm.digest (Utf8.encode (ByHash.subject n)))

/-- The key of a triple. Of texts, all kinds and lengths stand before the first text; numbers and
digests follow one another. -/
inductive TripleEncoding (t : τ) : KeyFormat → Triple → Bytes → Prop where
  /-- The kinds and the texts. -/
  | text (q : Triple) : TripleEncoding t .byString q (ByString.tripleBytes q)
  /-- The kinds and the numbers. -/
  | number {q : Triple} {bs : Bytes} (h : ByNodeId.NodesKey t q.nodes bs) :
    TripleEncoding t .byNodeId q bs
  /-- The digests. -/
  | digest (algorithm : DigestAlgorithm) (q : Triple) :
    TripleEncoding t (.byHash algorithm) q (ByHash.nodesBytes algorithm q.nodes)

variable [LawfulNodeIds τ]

/-- Keys of numbers are written alike to be stored and to be looked up. -/
theorem writes_numbers (h : Encodable .byNodeId use t ns t') : ∃ bs, ByNodeId.NodesKey t' ns bs ∧
    Writes (fun _ => False) (KeyFormat.byNodeId.encodeNodes use ns) t true bs t' := by
  cases h with
  | stored h => exact h.writes
  | lookedUp h =>
    have hknows : ∀ n ∈ ns, Knows t n := fun n hn =>
      (h n hn).imp_right fun ⟨id, hid, _⟩ => ⟨id, hid⟩
    obtain ⟨bs, hkey, hwrites⟩ := (ByNodeId.numbers_of_known h).writes (E := fun _ => False)
    refine ⟨bs, hkey, fun b hb => ?_⟩
    rw [ByNodeId.run_lookups_eq_stores hknows b]
    exact hwrites b hb

/-- **A node is written as a whole, or its key overflows the buffer.** -/
theorem fills_encodeNode (h : Encodable format use t [n] t') :
    ∃ bs, NodeEncoding t' format n bs ∧ Fills (format.encodeNode n use) t true bs t' := by
  cases format with
  | byString =>
    cases h with
    | text hshort =>
      have hwrites := ByString.writes_encodeNode (E := fun _ => False)
        (hshort n List.mem_cons_self) t
      exact ⟨_, .text n, (hwrites.bind_pure true).fills⟩
  | byNodeId =>
    obtain ⟨bs, hkey, hwrites⟩ := writes_numbers h
    rw [ByNodeId.encodeNodes_singleton] at hwrites
    cases hkey with
    | @cons n ns front back hnode hnil =>
      cases hnil
      rw [List.append_nil] at hwrites
      exact ⟨_, .number hnode, hwrites.fills⟩
  | byHash algorithm =>
    cases h with
    | digest => exact ⟨_, .digest algorithm n, ((writes_put _ t).bind_pure true).fills⟩

/-- **A triple is written as a whole, or its key overflows the buffer.** -/
theorem fills_encodeTriple (h : Encodable format use t q.nodes t') :
    ∃ bs, TripleEncoding t' format q bs ∧ Fills (format.encodeTriple q use) t true bs t' := by
  cases format with
  | byString =>
    cases h with
    | text hshort =>
      have hwrites := ByString.writes_encodeTriple (E := fun _ => False) hshort t
      exact ⟨_, .text q, (hwrites.bind_pure true).fills⟩
  | byNodeId =>
    obtain ⟨bs, hkey, hwrites⟩ := writes_numbers h
    exact ⟨bs, .number hkey, hwrites.fills⟩
  | byHash algorithm =>
    cases h with
    | digest =>
      exact ⟨_, .digest algorithm q, (ByHash.writes_encodeNodes algorithm use t q.nodes).fills⟩

/-- **Encoders never truncate or overrun.** Whatever bytes a buffer holds already, a node or a
triple, in any key format and to be stored or looked up, and a list of labels are appended as a
whole exactly if the bytes fit the capacity together; otherwise the encoder overflows after a proper
part. -/
theorem encoders_fill_buffers :
    (∀ (format : KeyFormat) (use : KeyUse) (n : Node) (t t' : τ), Encodable format use t [n] t' →
      ∃ bs, NodeEncoding t' format n bs ∧ Fills (format.encodeNode n use) t true bs t') ∧
    (∀ (format : KeyFormat) (use : KeyUse) (q : Triple) (t t' : τ),
      Encodable format use t q.nodes t' →
        ∃ bs, TripleEncoding t' format q bs ∧ Fills (format.encodeTriple q use) t true bs t') ∧
    ∀ (ls : List Label) (t : τ), LabelList.Small ls →
      Fills (LabelList.encode ls) t () (LabelList.record ls) t :=
  ⟨fun _ _ _ _ _ => fills_encodeNode, fun _ _ _ _ _ => fills_encodeTriple,
    fun _ t h => (LabelList.writes_encode h t).fills⟩

/-- A pattern is stored by the numbers that its nodes get in a table without numbers. Behind a byte
that the buffer held before, its key fits exactly; with one byte less, a part of it is written. -/
theorem encoders_fill_buffers_pattern :
    let q : Triple := ⟨.uri "s", .any, .uri "o"⟩
    ∃ (t : NodeTable) (bs : Bytes), TripleEncoding t .byNodeId q bs ∧
      (KeyFormat.byNodeId.encodeTriple q .store).run.run ⟨⟨bs.length + 1, [7]⟩, NodeTable.empty⟩
        = (.ok true, ⟨⟨bs.length + 1, 7 :: bs⟩, t⟩) ∧
      ∃ needed part last, (KeyFormat.byNodeId.encodeTriple q .store).run.run
          ⟨⟨bs.length, [7]⟩, NodeTable.empty⟩
        = (.error (.overflow needed bs.length), ⟨⟨bs.length, 7 :: part⟩, last⟩) ∧
        bs.length < needed ∧ part <+: bs ∧ part ≠ bs := by
  intro q
  obtain ⟨t, hnumbers⟩ : ∃ t, ByNodeId.Numbers NodeTable.empty q.nodes t :=
    ByNodeId.exists_numbers .refl (by decide)
  obtain ⟨bs, hencoding, hfills⟩ :=
    (encoders_fill_buffers (τ := NodeTable)).2.1 .byNodeId .store q _ t (.stored hnumbers)
  have hpos : 1 ≤ bs.length := by
    refine Nat.one_le_iff_ne_zero.2 fun hzero => ?_
    have hfull := hfills.fits ⟨0, []⟩ (by simp [hzero])
    cases hfull
  have hroom : ([7] : Bytes).length + bs.length ≤ bs.length + 1 := by
    rw [List.length_singleton]
    omega
  obtain ⟨needed, part, last, hrun, hneeded, hpart, hne, -⟩ :=
    hfills.overflows ⟨bs.length, [7]⟩ hpos (by
      show bs.length < 1 + bs.length
      omega)
  exact ⟨t, bs, hencoding, hfills.fits ⟨bs.length + 1, [7]⟩ hroom, needed, part, last, hrun,
    hneeded, hpart, hne⟩

end KeyFormat

end Clearance
