import Clearance.Codec.Key
import Clearance.Proofs.Codec.ByNodeId
import Clearance.Proofs.Codec.ByString
import Clearance.Proofs.Digest.Length

/-!
# Keys tell nodes apart

In every format a node and a triple have certain bytes, once all nodes have numbers if the format
needs numbers. What is stored under a key is found again: the bytes stay when more nodes get
numbers, lookups write the same bytes, and the bytes tell nodes and triples apart. Two things are
asked of the nodes: the lengths of texts must fit their fields, and digests must not collide.

## Main definitions

* `Clearance.KeyFormat.nodeBytes?`, `Clearance.KeyFormat.tripleBytes?` — the bytes of nodes and
  triples.
* `Clearance.KeyFormat.Suits`, `Clearance.KeyFormat.Writable`, `Clearance.KeyFormat.Distinct` —
  formats whose keys can be written for certain nodes, and tell them apart.

## Main results

* `Clearance.KeyFormat.writes_knownNode`, `Clearance.KeyFormat.writes_knownTriple` — writing what
  has bytes.
* `Clearance.KeyFormat.writes_lookupNode`, `Clearance.KeyFormat.writes_lookupTriple` — looking up.
* `Clearance.KeyFormat.stores_node`, `Clearance.KeyFormat.stores_triple` — storing.
* `Clearance.KeyFormat.reads_knownNode`, `Clearance.KeyFormat.reads_knownTriple` — reading.
* `Clearance.KeyFormat.eq_of_nodeBytes?`, `Clearance.KeyFormat.eq_of_tripleBytes?` — telling apart.
-/

namespace Clearance

theorem ByHash.subject_injective {n m : Node} (h : ByHash.subject n = ByHash.subject m) :
    n = m := by
  have hany : ∀ n : Node, n ≠ .any → ByHash.subject n = n.term ∧ n.term ≠ ['*'] := by
    rintro (iri | l | label | _) hn
    · exact ⟨rfl, by simp [Node.term]⟩
    · exact ⟨rfl, by simp [Node.term, Literal.term]⟩
    · exact ⟨rfl, by simp [Node.term]⟩
    · exact absurd rfl hn
  by_cases hn : n = .any
  · by_cases hm : m = .any
    · rw [hn, hm]
    · rw [hn, (hany m hm).1] at h
      exact absurd h.symm (hany m hm).2
  · by_cases hm : m = .any
    · rw [hm, (hany n hn).1] at h
      exact absurd h (hany n hn).2
    · rw [(hany n hn).1, (hany m hm).1] at h
      exact Node.term_injective h

namespace KeyFormat

open DecodeM EncodeM NodeTable

variable {E : Error → Prop} {format : KeyFormat} {N ns ms : List Node} {n m : Node}
  {q q' : Triple} {t t' : NodeTable} {bs bs' rest rest' : Bytes}

/-- The bytes of a node, if they need no number or the node has one. -/
def nodeBytes? (format : KeyFormat) (t : NodeTable) (n : Node) : Option Bytes :=
  match format with
  | byString => some (ByString.nodeBytes n)
  | byNodeId => ByNodeId.nodeBytes? t n
  | byHash algorithm => some (algorithm.digest (Utf8.encode (ByHash.subject n)))

/-- The bytes of nodes one after the other. -/
def nodesBytes? (format : KeyFormat) (t : NodeTable) : List Node → Option Bytes
  | [] => some []
  | n :: ns => do return (← format.nodeBytes? t n) ++ (← format.nodesBytes? t ns)

/-- The bytes of a triple. -/
def tripleBytes? (format : KeyFormat) (t : NodeTable) (q : Triple) : Option Bytes :=
  match format with
  | byString => some (ByString.tripleBytes q)
  | format => format.nodesBytes? t q.nodes

/-- Whether the keys of a format can be written for the nodes of a list and tell them apart. -/
structure Suits (format : KeyFormat) (N : List Node) : Prop where
  /-- The lengths of texts can be written. -/
  short : format = .byString → ∀ n ∈ N, ByString.Short n
  /-- Digests do not collide. -/
  distinct (algorithm : DigestAlgorithm) : format = .byHash algorithm → ∀ n ∈ N, ∀ m ∈ N,
    algorithm.digest (Utf8.encode (ByHash.subject n))
      = algorithm.digest (Utf8.encode (ByHash.subject m)) → ByHash.subject n = ByHash.subject m

theorem nodesBytes?_cons_eq_some :
    format.nodesBytes? t (n :: ns) = some bs ↔
      ∃ head tail, format.nodeBytes? t n = some head ∧ format.nodesBytes? t ns = some tail ∧
        bs = head ++ tail := by
  rw [nodesBytes?]
  rcases format.nodeBytes? t n with _ | head
  · simp
  · rcases format.nodesBytes? t ns with _ | tail
    · simp
    · simp [eq_comm]

/-! ### Growing tables -/

theorem nodeBytes?_mono (h : t.Extends t') (hbs : format.nodeBytes? t n = some bs) :
    format.nodeBytes? t' n = some bs := by
  cases format with
  | byString => exact hbs
  | byNodeId => exact ByNodeId.nodeBytes?_mono h hbs
  | byHash algorithm => exact hbs

theorem nodesBytes?_mono (h : t.Extends t') (hbs : format.nodesBytes? t ns = some bs) :
    format.nodesBytes? t' ns = some bs := by
  induction ns generalizing bs with
  | nil => exact hbs
  | cons n ns ih =>
    obtain ⟨head, tail, hhead, htail, rfl⟩ := nodesBytes?_cons_eq_some.1 hbs
    exact nodesBytes?_cons_eq_some.2 ⟨head, tail, nodeBytes?_mono h hhead, ih htail, rfl⟩

/-- The bytes of a triple stay when the table grows. -/
theorem tripleBytes?_mono (h : t.Extends t') (hbs : format.tripleBytes? t q = some bs) :
    format.tripleBytes? t' q = some bs := by
  cases format with
  | byString => exact hbs
  | byNodeId => exact nodesBytes?_mono h hbs
  | byHash algorithm => exact nodesBytes?_mono h hbs

/-- Whether nodes can be written in a format: the lengths of their texts must fit their fields, if
the format writes texts. -/
def Writable (format : KeyFormat) (ns : List Node) : Prop :=
  format = .byString → ∀ n ∈ ns, ByString.Short n

theorem Writable.mono (h : format.Writable ms) (hns : ns ⊆ ms) : format.Writable ns :=
  fun hformat n hn => h hformat n (hns hn)

theorem Suits.writable (h : format.Suits N) : format.Writable N := h.short

/-- Whether the digests of the nodes of a list do not collide, if the format digests nodes. -/
def Distinct (format : KeyFormat) (N : List Node) : Prop :=
  ∀ algorithm, format = .byHash algorithm → ∀ n ∈ N, ∀ m ∈ N,
    algorithm.digest (Utf8.encode (ByHash.subject n))
      = algorithm.digest (Utf8.encode (ByHash.subject m)) → n = m

theorem Distinct.mono (h : format.Distinct N) (hns : ns ⊆ N) : format.Distinct ns :=
  fun algorithm hformat n hn m hm => h algorithm hformat n (hns hn) m (hns hm)

/-- Keys that can be written for nodes without collisions tell them apart. -/
theorem Distinct.suits (h : format.Distinct N) (hwritable : format.Writable N) :
    format.Suits N where
  short := hwritable
  distinct algorithm hformat n hn m hm heq :=
    congrArg ByHash.subject (h algorithm hformat n hn m hm heq)

/-! ### Looking up -/

section Lookup

variable (ht : empty.Extends t) (hfits : t.Fits)

include ht hfits

/-- **Writing a node that has bytes** writes them, and gives no numbers, also to store the node. -/
theorem writes_knownNode (hn : format.Writable [n]) (h : format.nodeBytes? t n = some bs)
    (use : KeyUse) : Writes E (format.encodeNode n use) t true bs t := by
  cases format with
  | byString =>
    cases h
    exact (ByString.writes_encodeNode (hn rfl n List.mem_cons_self) t).bind_pure true
  | byNodeId => exact ByNodeId.writes_known ht hfits h use
  | byHash algorithm =>
    cases h
    exact (writes_put _ t).bind_pure true

theorem writes_knownNodes (hns : format.Writable ns) (h : format.nodesBytes? t ns = some bs)
    (use : KeyUse) : Writes E (format.encodeNodes use ns) t true bs t := by
  induction ns generalizing bs with
  | nil =>
    cases h
    exact writes_pure true t
  | cons n ns ih =>
    obtain ⟨head, tail, hhead, htail, rfl⟩ := nodesBytes?_cons_eq_some.1 h
    exact (writes_knownNode ht hfits (hns.mono (by simp)) hhead use).bind
      (ih (hns.mono (List.subset_cons_self n ns)) htail)

/-- **Writing a triple that has bytes** writes them, and gives no numbers. -/
theorem writes_knownTriple (hq : format.Writable q.nodes) (h : format.tripleBytes? t q = some bs)
    (use : KeyUse) : Writes E (format.encodeTriple q use) t true bs t := by
  cases format with
  | byString =>
    cases h
    exact (ByString.writes_encodeTriple (hq rfl) t).bind_pure true
  | byNodeId => exact writes_knownNodes ht hfits hq h use
  | byHash algorithm => exact writes_knownNodes ht hfits hq h use

/-- **Looking up a node** writes its bytes, and tells if it has none. -/
theorem writes_lookupNode (hn : format.Writable [n]) :
    ∃ known bs, Writes E (format.encodeNode n .lookup) t known bs t ∧
      format.nodeBytes? t n = if known then some bs else none := by
  cases format with
  | byString =>
    have hwrites := ByString.writes_encodeNode (E := E) (hn rfl n List.mem_cons_self) t
    exact ⟨true, _, hwrites.bind_pure true, rfl⟩
  | byNodeId =>
    rcases h : ByNodeId.nodeBytes? t n with _ | bs
    · exact ⟨false, [], ByNodeId.writes_unknown h, h⟩
    · exact ⟨true, bs, ByNodeId.writes_known ht hfits h .lookup, h⟩
  | byHash algorithm => exact ⟨true, _, (writes_put _ t).bind_pure true, rfl⟩

theorem writes_lookupNodes (hns : format.Writable ns) :
    ∃ known bs, Writes E (format.encodeNodes .lookup ns) t known bs t ∧
      format.nodesBytes? t ns = if known then some bs else none := by
  induction ns with
  | nil => exact ⟨true, [], writes_pure true t, rfl⟩
  | cons n ns ih =>
    have hn : format.Writable [n] := hns.mono (by simp)
    obtain ⟨known, head, hhead, hbytes⟩ := writes_lookupNode (E := E) ht hfits hn
    cases known with
    | false =>
      refine ⟨false, head ++ [], hhead.bind (writes_pure false t), ?_⟩
      rw [nodesBytes?, hbytes]
      rfl
    | true =>
      obtain ⟨known, tail, htail, hbytes'⟩ := ih (hns.mono (List.subset_cons_self n ns))
      refine ⟨known, head ++ tail, hhead.bind htail, ?_⟩
      rw [nodesBytes?, hbytes, hbytes']
      cases known <;> rfl

/-- **Looking up a triple** writes its bytes, and tells if it has none. -/
theorem writes_lookupTriple (hq : format.Writable q.nodes) :
    ∃ known bs, Writes E (format.encodeTriple q .lookup) t known bs t ∧
      format.tripleBytes? t q = if known then some bs else none := by
  cases format with
  | byString =>
    have hwrites := ByString.writes_encodeTriple (E := E) (hq rfl) t
    exact ⟨true, _, hwrites.bind_pure true, rfl⟩
  | byNodeId => exact writes_lookupNodes ht hfits hq
  | byHash algorithm => exact writes_lookupNodes ht hfits hq

end Lookup

/-! ### Storing -/

/-- An encoder that lets a table of nodes of a list grow, so that what it writes are certain bytes
in terms of the grown table. -/
def Stores (N : List Node) (x : EncodeM NodeTable Bool) (t : NodeTable)
    (bytes? : NodeTable → Option Bytes) : Prop :=
  ∃ t' bs, t.Extends t' ∧ t'.Within N ∧ bytes? t' = some bs ∧
    Writes (ByNodeId.OutOfRange t'.size) x t true bs t'

section Store

variable (ht : empty.Extends t) (hwithin : t.Within N)

include ht hwithin

/-- **Storing a node** writes the bytes that it has then. -/
theorem stores_node (hshort : format.Writable [n]) (hn : n ∈ N) :
    Stores N (format.encodeNode n .store) t fun t' => format.nodeBytes? t' n := by
  cases format with
  | byString =>
    have hnode := hshort rfl n List.mem_cons_self
    exact ⟨t, _, .refl, hwithin, rfl, (ByString.writes_encodeNode hnode t).bind_pure true⟩
  | byNodeId =>
    obtain ⟨bs, hbytes, hwrites⟩ := ByNodeId.writes_store ht n
    refine ⟨_, bs, ByNodeId.extends_tableAfter t n, ?_, hbytes, hwrites⟩
    unfold ByNodeId.tableAfter
    split
    · exact hwithin
    · exact hwithin.allocate hn
  | byHash algorithm => exact ⟨t, _, .refl, hwithin, rfl, (writes_put _ t).bind_pure true⟩

theorem stores_nodes (hshort : format.Writable ns) (hns : ns ⊆ N) :
    Stores N (format.encodeNodes .store ns) t fun t' => format.nodesBytes? t' ns := by
  induction ns generalizing t with
  | nil => exact ⟨t, [], .refl, hwithin, rfl, writes_pure true t⟩
  | cons n ns ih =>
    obtain ⟨hn, hns⟩ := List.cons_subset.1 hns
    have hshort' : format.Writable [n] := hshort.mono (by simp)
    obtain ⟨t₁, head, hext, hwithin₁, hhead, hwrites⟩ := stores_node ht hwithin hshort' hn
    obtain ⟨t₂, tail, hext', hwithin₂, htail, hwrites'⟩ :=
      ih (ht.trans hext) hwithin₁ (hshort.mono (List.subset_cons_self n ns)) hns
    refine ⟨t₂, head ++ tail, hext.trans hext', hwithin₂, ?_, ?_⟩
    · exact nodesBytes?_cons_eq_some.2 ⟨head, tail, nodeBytes?_mono hext' hhead, htail, rfl⟩
    · exact (hwrites.mono fun e he => he.mono hext'.size_le).bind hwrites'

/-- **Storing a triple** writes the bytes that it has then. -/
theorem stores_triple (hshort : format.Writable q.nodes) (hq : q.nodes ⊆ N) :
    Stores N (format.encodeTriple q .store) t fun t' => format.tripleBytes? t' q := by
  cases format with
  | byString =>
    exact ⟨t, _, .refl, hwithin, rfl, (ByString.writes_encodeTriple (hshort rfl) t).bind_pure true⟩
  | byNodeId => exact stores_nodes ht hwithin hshort hq
  | byHash algorithm => exact stores_nodes ht hwithin hshort hq

end Store

/-! ### Reading -/

section Reading

variable (hreversible : format.isReversible = true) (ht : empty.Extends t) (hfits : t.Fits)

include hreversible ht hfits

/-- **A node is read back from its bytes**, unless these are a digest. -/
theorem reads_knownNode (hn : format.Writable [n]) (h : format.nodeBytes? t n = some bs) :
    Reads (format.decodeNode t) bs n := by
  cases format with
  | byString =>
    cases h
    exact ByString.reads_decodeNode (hn rfl n List.mem_cons_self)
  | byNodeId => exact ByNodeId.reads_of_nodeBytes? ht hfits h
  | byHash algorithm => cases hreversible

/-- **A triple is read back from its bytes**, unless these are digests. -/
theorem reads_knownTriple (hq : format.Writable q.nodes) (h : format.tripleBytes? t q = some bs) :
    Reads (format.decodeTriple t) bs q := by
  cases format with
  | byString =>
    cases h
    exact ByString.reads_decodeTriple (hq rfl)
  | byNodeId =>
    have hreads {n : Node} {bs : Bytes} (h : byNodeId.nodeBytes? t n = some bs) :
        Reads (ByNodeId.decodeNode t) bs n := ByNodeId.reads_of_nodeBytes? ht hfits h
    obtain ⟨s, rest, hs, hrest, rfl⟩ := nodesBytes?_cons_eq_some.1 h
    obtain ⟨p, rest', hp, hrest', rfl⟩ := nodesBytes?_cons_eq_some.1 hrest
    obtain ⟨o, rest'', ho, hrest'', rfl⟩ := nodesBytes?_cons_eq_some.1 hrest'
    cases hrest''
    exact ByNodeId.reads_decodeTriple (hreads hs) (hreads hp) (hreads ho)
  | byHash algorithm => cases hreversible

end Reading

/-! ### Telling apart -/

section Apart

variable (hsuits : format.Suits N) (ht : empty.Extends t) (hfits : t.Fits)

include hsuits ht hfits

/-- **The bytes of nodes tell them apart**, and end where they end. -/
theorem eq_of_nodeBytes? (hn : n ∈ N) (hm : m ∈ N) (h : format.nodeBytes? t n = some bs)
    (h' : format.nodeBytes? t m = some bs') (heq : bs ++ rest = bs' ++ rest') :
    n = m ∧ rest = rest' := by
  cases format with
  | byString =>
    cases h
    cases h'
    have hreads {n : Node} (hn : n ∈ N) := ByString.reads_decodeNode (hsuits.short rfl n hn)
    exact (hreads hn).eq_of_append_eq (hreads hm) heq
  | byNodeId =>
    have hreads {n : Node} {bs : Bytes} (h : ByNodeId.nodeBytes? t n = some bs) :=
      ByNodeId.reads_of_nodeBytes? ht hfits h
    exact (hreads h).eq_of_append_eq (hreads h') heq
  | byHash algorithm =>
    cases h
    cases h'
    have hlength : ∀ s s' : Bytes, (algorithm.digest s).length = (algorithm.digest s').length :=
      fun s s' => by rw [algorithm.length_digest, algorithm.length_digest]
    obtain ⟨hdigest, hrest⟩ := List.append_inj heq (hlength _ _)
    exact ⟨ByHash.subject_injective (hsuits.distinct algorithm rfl n hn m hm hdigest), hrest⟩

theorem eq_of_nodesBytes? (hns : ns ⊆ N) (hms : ms ⊆ N) (hlength : ns.length = ms.length)
    (h : format.nodesBytes? t ns = some bs) (h' : format.nodesBytes? t ms = some bs) : ns = ms := by
  induction ns generalizing ms bs with
  | nil => exact (List.length_eq_zero_iff.1 hlength.symm).symm
  | cons n ns ih =>
    obtain ⟨m, ms, rfl⟩ := List.exists_cons_of_length_eq_add_one hlength.symm
    obtain ⟨hn, hns'⟩ := List.cons_subset.1 hns
    obtain ⟨hm, hms'⟩ := List.cons_subset.1 hms
    obtain ⟨head, tail, hhead, htail, rfl⟩ := nodesBytes?_cons_eq_some.1 h
    obtain ⟨head', tail', hhead', htail', heq⟩ := nodesBytes?_cons_eq_some.1 h'
    obtain ⟨rfl, rfl⟩ := eq_of_nodeBytes? hsuits ht hfits hn hm hhead hhead' heq
    have hrest : ns = ms := ih hns' hms' (by simpa using hlength) htail htail'
    rw [hrest]

/-- **The bytes of triples tell them apart.** -/
theorem eq_of_tripleBytes? (hq : q.nodes ⊆ N) (hq' : q'.nodes ⊆ N)
    (h : format.tripleBytes? t q = some bs) (h' : format.tripleBytes? t q' = some bs) : q = q' := by
  have heq (h : q.nodes = q'.nodes) : q = q' := by
    cases q
    cases q'
    simpa [Triple.nodes] using h
  cases format with
  | byString =>
    have hreads {q : Triple} (hq : q.nodes ⊆ N) :=
      ByString.reads_decodeTriple fun n hn => hsuits.short rfl n (hq hn)
    have happend : ByString.tripleBytes q ++ [] = ByString.tripleBytes q' ++ [] := by
      rw [Option.some.inj (h.trans h'.symm)]
    exact ((hreads hq).eq_of_append_eq (hreads hq') happend).1
  | byNodeId => exact heq (eq_of_nodesBytes? hsuits ht hfits hq hq' rfl h h')
  | byHash algorithm => exact heq (eq_of_nodesBytes? hsuits ht hfits hq hq' rfl h h')

end Apart

end KeyFormat

end Clearance
