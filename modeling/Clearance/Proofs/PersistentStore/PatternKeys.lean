import Clearance.Proofs.Codec.Keys
import Clearance.Proofs.Codec.LabelList
import Clearance.Store.Persistent

/-!
# The keys of patterns

Every pattern has a key, once its nodes have numbers if the format needs numbers. Patterns of one
table have different keys, also where patterns of two shapes share the table. Writing keys and lists
of labels into buffers either gives their bytes or fails for want of room, or of numbers.

## Main definitions

* `Clearance.PersistentStore.key?` — the key of a pattern.
* `Clearance.PersistentStore.Overflows` — failures for want of room.

## Main results

* `Clearance.PersistentStore.writes_knownKey`, `Clearance.PersistentStore.writes_lookupKey`,
  `Clearance.PersistentStore.stores_key` — writing keys.
* `Clearance.PersistentStore.decodeKey_of_key?` — reading keys.
* `Clearance.PersistentStore.eq_of_key?`, `Clearance.PersistentStore.key?_ne_of_wildcard` — keys
  tell patterns apart.
* `Clearance.PersistentStore.length_key?_le` — the lengths of keys.
* `Clearance.PersistentStore.encoded_of_writes`, `Clearance.PersistentStore.key?_of_run_store` —
  encoders on fresh buffers.
-/

namespace Clearance.PersistentStore

open DecodeM EncodeM KeyFormat NodeTable

variable {E : Error → Prop} {format : KeyFormat} {N : List Node} {q q' : Triple}
  {t t' : NodeTable} {shape shape' : Shape} {k : Bytes}

/-- The key of a pattern of a given shape. -/
def key? (format : KeyFormat) (t : NodeTable) (shape : Shape) (q : Triple) : Option Bytes :=
  match shape with
  | .exact => format.tripleBytes? t q
  | .subjectPredicate => format.tripleBytes? t q
  | .subject => format.nodeBytes? t q.s
  | .predicate => format.nodeBytes? t q.p
  | .everything => some everythingKey

/-- The key of a pattern stays when the table of nodes grows. -/
theorem key?_mono (h : t.Extends t') (hk : key? format t shape q = some k) :
    key? format t' shape q = some k := by
  cases shape with
  | exact => exact tripleBytes?_mono h hk
  | subjectPredicate => exact tripleBytes?_mono h hk
  | subject => exact nodeBytes?_mono h hk
  | predicate => exact nodeBytes?_mono h hk
  | everything => exact hk

theorem mem_of_nodes_subset (hq : q.nodes ⊆ N) : q.s ∈ N ∧ q.p ∈ N ∧ q.o ∈ N :=
  ⟨hq (by simp [Triple.nodes]), hq (by simp [Triple.nodes]), hq (by simp [Triple.nodes])⟩

/-- Only for want of a number may there be no key. -/
theorem exists_key? (hformat : format ≠ .byNodeId) (t : NodeTable) (shape : Shape) (q : Triple) :
    ∃ k, key? format t shape q = some k := by
  cases format with
  | byNodeId => exact absurd rfl hformat
  | _ => cases shape <;> exact ⟨_, rfl⟩

/-! ### Writing -/

/-- Writing a pattern that has a key writes it, and gives no numbers, also to store the pattern. -/
theorem writes_knownKey (ht : empty.Extends t) (hfits : t.Fits) (hq : format.Writable q.nodes)
    (hk : key? format t shape q = some k) (use : KeyUse) :
    Writes E (encodeKey format shape q use) t true k t := by
  cases shape with
  | exact => exact writes_knownTriple ht hfits hq hk use
  | subjectPredicate => exact writes_knownTriple ht hfits hq hk use
  | subject => exact writes_knownNode ht hfits (hq.mono (by simp [Triple.nodes])) hk use
  | predicate => exact writes_knownNode ht hfits (hq.mono (by simp [Triple.nodes])) hk use
  | everything =>
    cases hk
    exact (writes_put everythingKey t).bind_pure true

/-- Looking up a pattern writes its key, and tells if it has none. -/
theorem writes_lookupKey (ht : empty.Extends t) (hfits : t.Fits) (hq : format.Writable q.nodes)
    (shape : Shape) :
    ∃ known k, Writes E (encodeKey format shape q .lookup) t known k t ∧
      key? format t shape q = if known then some k else none := by
  cases shape with
  | exact => exact writes_lookupTriple ht hfits hq
  | subjectPredicate => exact writes_lookupTriple ht hfits hq
  | subject => exact writes_lookupNode ht hfits (hq.mono (by simp [Triple.nodes]))
  | predicate => exact writes_lookupNode ht hfits (hq.mono (by simp [Triple.nodes]))
  | everything => exact ⟨true, everythingKey, (writes_put everythingKey t).bind_pure true, rfl⟩

/-- Storing a pattern writes the key that it has then. -/
theorem stores_key (ht : empty.Extends t) (hwithin : t.Within N) (hshort : format.Writable q.nodes)
    (hq : q.nodes ⊆ N) (shape : Shape) :
    Stores N (encodeKey format shape q .store) t fun t' => key? format t' shape q := by
  obtain ⟨hs, hp, -⟩ := mem_of_nodes_subset hq
  cases shape with
  | exact => exact stores_triple ht hwithin hshort hq
  | subjectPredicate => exact stores_triple ht hwithin hshort hq
  | subject => exact stores_node ht hwithin (hshort.mono (by simp [Triple.nodes])) hs
  | predicate => exact stores_node ht hwithin (hshort.mono (by simp [Triple.nodes])) hp
  | everything =>
    exact ⟨t, everythingKey, .refl, hwithin, rfl, (writes_put everythingKey t).bind_pure true⟩

/-! ### Reading -/

section Reading

variable (hreversible : format.isReversible = true) (ht : empty.Extends t) (hfits : t.Fits)
  (hshape : Shape.ofPattern? q = some shape) (hq : format.Writable q.nodes)
  (hk : key? format t shape q = some k)

include hreversible ht hfits hshape hq hk

/-- The pattern of a key is read to the end of the key. -/
theorem run_decodePattern : ∃ place,
    (decodePattern format t (.ofShape shape)).run.run ⟨k, 0⟩ = (.ok q, ⟨[], place⟩) := by
  have hwhole {x : DecodeM Triple} (hx : Reads x k q) :
      ∃ place, x.run.run ⟨k, 0⟩ = (.ok q, ⟨[], place⟩) := by
    have hrun := hx [] 0
    rw [List.append_nil] at hrun
    exact ⟨_, hrun⟩
  have hproject := Shape.project_eq_self hshape
  cases shape with
  | exact => exact hwhole (reads_knownTriple hreversible ht hfits hq hk)
  | subjectPredicate => exact hwhole (reads_knownTriple hreversible ht hfits hq hk)
  | subject =>
    have hs : format.Writable [q.s] := hq.mono (by simp [Triple.nodes])
    refine hwhole ((reads_knownNode hreversible ht hfits hs hk).bind_nil ?_)
    rw [← hproject]
    exact reads_pure _
  | predicate =>
    have hp : format.Writable [q.p] := hq.mono (by simp [Triple.nodes])
    refine hwhole ((reads_knownNode hreversible ht hfits hp hk).bind_nil ?_)
    rw [← hproject]
    exact reads_pure _
  | everything =>
    have htake := ByteReader.reads_take (rfl : k.length = k.length) [] 0
    rw [List.append_nil] at htake
    refine ⟨0 + k.length, ?_⟩
    rw [← hproject, Keyspace.ofShape, decodePattern, run_get_bind]
    dsimp only
    rw [run_bind_ok htake]
    rfl

/-- **A pattern is read back from its key**, unless this is made of digests. -/
theorem decodeKey_of_key? : decodeKey format t (.ofShape shape) k = .ok q := by
  obtain ⟨place, hrun⟩ := run_decodePattern hreversible ht hfits hshape hq hk
  rw [decodeKey, readFrom, run_bind_ok hrun]
  rfl

end Reading

/-! ### Telling apart -/

theorem key?_of_triples (h : Keyspace.ofShape shape = .triples) :
    key? format t shape q = format.tripleBytes? t q := by
  cases shape with
  | exact => rfl
  | subjectPredicate => rfl
  | _ => cases h

/-- Only the table for triples has patterns of two shapes. -/
theorem eq_of_ofShape_eq (h : Keyspace.ofShape shape = Keyspace.ofShape shape')
    (htriples : Keyspace.ofShape shape ≠ .triples) : shape = shape' := by
  cases shape <;> cases shape' <;> simp_all [Keyspace.ofShape]

/-- **Keys tell patterns apart** that are kept in the same table. -/
theorem eq_of_key? (hsuits : format.Suits N) (ht : empty.Extends t) (hfits : t.Fits)
    (hq : q.nodes ⊆ N) (hq' : q'.nodes ⊆ N) (hshape : Shape.ofPattern? q = some shape)
    (hshape' : Shape.ofPattern? q' = some shape')
    (hspace : Keyspace.ofShape shape = Keyspace.ofShape shape')
    (hk : key? format t shape q = some k) (hk' : key? format t shape' q' = some k) : q = q' := by
  by_cases htriples : Keyspace.ofShape shape = .triples
  · rw [key?_of_triples htriples] at hk
    rw [key?_of_triples (hspace ▸ htriples)] at hk'
    exact eq_of_tripleBytes? hsuits ht hfits hq hq' hk hk'
  have hnode {n m : Node} (hn : n ∈ N) (hm : m ∈ N) (h : format.nodeBytes? t n = some k)
      (h' : format.nodeBytes? t m = some k) : n = m :=
    (eq_of_nodeBytes? hsuits ht hfits hn hm h h' (Eq.refl (k ++ []))).1
  obtain ⟨hs, hp, -⟩ := mem_of_nodes_subset hq
  obtain ⟨hs', hp', -⟩ := mem_of_nodes_subset hq'
  obtain rfl := eq_of_ofShape_eq hspace htriples
  rw [← Shape.project_eq_self hshape, ← Shape.project_eq_self hshape']
  cases shape with
  | exact => exact absurd rfl htriples
  | subjectPredicate => exact absurd rfl htriples
  | subject => rw [Shape.project, Shape.project, hnode hs hs' hk hk']
  | predicate => rw [Shape.project, Shape.project, hnode hp hp' hk hk']
  | everything => rfl

/-- **Keys tell wildcards from nodes** in the place of the object, unless digests collide. -/
theorem key?_ne_of_wildcard (ht : empty.Extends t) (hfits : t.Fits)
    (hshape : Shape.ofPattern? q = some .subjectPredicate)
    (hshape' : Shape.ofPattern? q' = some .exact)
    (hdigest : ∀ algorithm, format = .byHash algorithm →
      algorithm.digest (Utf8.encode (ByHash.subject q'.o))
        ≠ algorithm.digest (Utf8.encode (ByHash.subject .any)))
    (hk : key? format t .subjectPredicate q = some k) : key? format t .exact q' ≠ some k := by
  intro hk'
  have hany : q.o = .any := congrArg Triple.o (Shape.project_eq_self hshape).symm
  cases format with
  | byString =>
    have htag := ByString.getElem?_tripleBytes q'
    have hobject := Shape.isConcrete_of_exact hshape'
    rw [Option.some.inj (hk'.trans hk.symm), ByString.getElem?_tripleBytes q, hany] at htag
    obtain ⟨s, p, o⟩ := q'
    cases o with
    | any => simp [Triple.isConcrete, Node.isConcrete] at hobject
    | uri iri => exact absurd htag (show some (UInt8.ofNat 3) ≠ some (UInt8.ofNat 0) by decide)
    | literal l => exact absurd htag (show some (UInt8.ofNat 3) ≠ some (UInt8.ofNat 1) by decide)
    | blank label => exact absurd htag (show some (UInt8.ofNat 3) ≠ some (UInt8.ofNat 2) by decide)
  | byNodeId =>
    have hsuits : KeyFormat.byNodeId.Suits (q.nodes ++ q'.nodes) :=
      ⟨fun h => (by cases h), fun _ h => (by cases h)⟩
    obtain rfl := eq_of_tripleBytes? hsuits ht hfits (List.subset_append_left _ _)
      (List.subset_append_right _ _) hk hk'
    rw [hshape] at hshape'
    cases hshape'
  | byHash algorithm =>
    have hlength (s s' : Bytes) : (algorithm.digest s).length = (algorithm.digest s').length := by
      rw [algorithm.length_digest, algorithm.length_digest]
    cases hk
    obtain ⟨-, hrest⟩ := List.append_inj (Option.some.inj hk') (hlength _ _)
    obtain ⟨-, hrest⟩ := List.append_inj hrest (hlength _ _)
    obtain ⟨hobject, -⟩ := List.append_inj hrest (hlength _ _)
    rw [hany] at hobject
    exact hdigest algorithm rfl hobject

/-! ### Lengths -/

/-- The keys that a triple is looked up with are not longer than its own, in the formats without
numbers. -/
theorem length_key?_le (hformat : format ≠ .byNodeId) (hk : key? format t .exact q = some k)
    {k' : Bytes} (hk' : key? format t shape (shape.project q) = some k') :
    k'.length ≤ k.length := by
  cases format with
  | byNodeId => exact absurd rfl hformat
  | byString =>
    have hany : (ByString.body .any).length = 0 := rfl
    have hone : everythingKey.length = 1 := rfl
    obtain rfl := Option.some.inj hk
    have hlength := ByString.length_tripleBytes q
    cases shape with
    | exact =>
      obtain rfl := Option.some.inj hk'
      exact Nat.le_refl _
    | subjectPredicate =>
      obtain rfl := Option.some.inj hk'
      have hlength' := ByString.length_tripleBytes ⟨q.s, q.p, .any⟩
      simp only [Shape.project] at hlength' ⊢
      omega
    | subject =>
      obtain rfl := Option.some.inj hk'
      have hlength' := ByString.length_nodeBytes q.s
      simp only [Shape.project]
      omega
    | predicate =>
      obtain rfl := Option.some.inj hk'
      have hlength' := ByString.length_nodeBytes q.p
      simp only [Shape.project]
      omega
    | everything =>
      obtain rfl := Option.some.inj hk'
      omega
  | byHash algorithm =>
    have hpos : 0 < algorithm.length := by cases algorithm <;> decide
    have hone : everythingKey.length = 1 := rfl
    have htriple {q : Triple} {k : Bytes}
        (hk : nodesBytes? (.byHash algorithm) t q.nodes = some k) :
        k.length = 3 * algorithm.length := by
      obtain rfl := Option.some.inj hk
      simp only [List.length_append, algorithm.length_digest, List.length_nil]
      omega
    have hlength := htriple hk
    cases shape with
    | exact => exact Nat.le_of_eq ((htriple hk').trans hlength.symm)
    | subjectPredicate => exact Nat.le_of_eq ((htriple hk').trans hlength.symm)
    | subject =>
      obtain rfl := Option.some.inj hk'
      rw [algorithm.length_digest]
      omega
    | predicate =>
      obtain rfl := Option.some.inj hk'
      rw [algorithm.length_digest]
      omega
    | everything =>
      obtain rfl := Option.some.inj hk'
      omega

/-! ### Fresh buffers -/

/-- Whether a failure is for want of room in a buffer of a given capacity. -/
def Overflows (capacity : Nat) (e : Error) : Prop :=
  ∃ needed, capacity < needed ∧ e = .overflow needed capacity

theorem run_encoded {α : Type} (capacity : Nat) (x : EncodeM NodeTable α) (t : NodeTable) :
    (encoded capacity x).run.run t = match x.run.run ⟨{ capacity }, t⟩ with
      | (.ok a, sheet) => (.ok (a, sheet.buffer.bytes), sheet.table)
      | (.error e, sheet) => (.error e, sheet.table) := rfl

/-- What an encoder does to a fresh buffer: it writes its bytes if there is room for them, and
otherwise fails; or it fails with an error of its own. -/
theorem encoded_of_writes {α : Type} {x : EncodeM NodeTable α} {a : α} {bs : Bytes}
    (h : Writes E x t a bs t') (capacity : Nat) :
    (∃ e last, (encoded capacity x).run.run t = (.error e, last) ∧
        (capacity < bs.length ∧ Overflows capacity e ∨ E e)) ∨
      bs.length ≤ capacity ∧ (encoded capacity x).run.run t = (.ok (a, bs), t') := by
  have hrun := h { capacity } (Nat.zero_le capacity)
  have hzero : 0 + bs.length = bs.length := Nat.zero_add _
  rw [run_encoded]
  rcases hx : x.run.run ⟨{ capacity }, t⟩ with ⟨r, sheet⟩
  rw [hx] at hrun
  cases hrun with
  | fits hfits => exact .inr ⟨hzero ▸ hfits, rfl⟩
  | @overflows needed _ _ last _ _ hneeded hle =>
    have hlong : capacity < bs.length := Nat.lt_of_lt_of_le hneeded (hzero ▸ hle)
    exact .inl ⟨_, last, rfl, .inl ⟨hlong, needed, hneeded, rfl⟩⟩
  | @refused e sheet he => exact .inl ⟨e, sheet.table, rfl, .inr he⟩

/-- A run on a fresh buffer that succeeds is a run of the encoder that succeeds. -/
theorem exists_run_of_run_encoded {α : Type} {capacity : Nat} {x : EncodeM NodeTable α} {a : α}
    {bs : Bytes} (h : (encoded capacity x).run.run t = (.ok (a, bs), t')) :
    ∃ sheet, x.run.run ⟨{ capacity }, t⟩ = (.ok a, sheet) := by
  rw [run_encoded] at h
  rcases hx : x.run.run ⟨{ capacity }, t⟩ with ⟨e | b, sheet⟩
  · rw [hx] at h
    cases h
  · rw [hx] at h
    cases h
    exact ⟨sheet, rfl⟩

/-- The texts of a pattern whose key was written are not too long. -/
theorem writable_of_run_encodeKey {use : KeyUse} {sheet sheet' : Sheet NodeTable} {known : Bool}
    (hshape : Shape.ofPattern? q = some shape)
    (h : (encodeKey format shape q use).run.run sheet = (.ok known, sheet')) :
    format.Writable q.nodes := by
  rintro rfl
  have hany := ByString.short_any
  have htriple (h : ((KeyFormat.byString).encodeTriple q use).run.run sheet = (.ok known, sheet')) :
      ∀ n ∈ q.nodes, ByString.Short n := by
    obtain ⟨_, _, hrun, -⟩ := run_bind_eq_ok h
    exact ByString.short_of_run_encodeTriple hrun
  have hnode {n : Node}
      (h : ((KeyFormat.byString).encodeNode n use).run.run sheet = (.ok known, sheet')) :
      ByString.Short n := by
    obtain ⟨_, _, hrun, -⟩ := run_bind_eq_ok h
    exact ByString.short_of_run_encodeNode hrun
  rw [← Shape.project_eq_self hshape]
  cases shape with
  | exact => exact htriple h
  | subjectPredicate =>
    have hnodes := htriple h
    simp only [Triple.nodes, List.forall_mem_cons] at hnodes
    simp [Shape.project, Triple.nodes, hnodes, hany]
  | subject => simp [Shape.project, Triple.nodes, hnode h, hany]
  | predicate => simp [Shape.project, Triple.nodes, hnode h, hany]
  | everything => simp [Shape.project, Triple.nodes, hany]

/-- **What is written to store a pattern is its key** with the numbers that there are then. -/
theorem key?_of_run_store {capacity : Nat} {known : Bool} (ht : empty.Extends t)
    (hshape : Shape.ofPattern? q = some shape)
    (h : (encoded capacity (encodeKey format shape q .store)).run.run t = (.ok (known, k), t')) :
    key? format t' shape q = some k := by
  obtain ⟨sheet, hrun⟩ := exists_run_of_run_encoded h
  have hwithin : t.Within (t.nodes.toList ++ q.nodes) := List.subset_append_left _ _
  obtain ⟨t'', bs, -, -, hbytes, hwrites⟩ := stores_key ht hwithin
    (writable_of_run_encodeKey hshape hrun) (List.subset_append_right _ _) shape
  rcases encoded_of_writes hwrites capacity with ⟨e, last, herror, -⟩ | ⟨-, hok⟩
  · rw [herror] at h
    cases h
  · rw [hok] at h
    cases h
    exact hbytes

end Clearance.PersistentStore
