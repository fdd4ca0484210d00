import Clearance.Proofs.Codec.Keys

/-!
# Keys that hold digests tell nodes apart

The term of a node tells which node it is: it is read back as the node, so that no two nodes have
the same term, and no node has the asterisk as its term, which is digested for the wildcard. Keys of
digests hold the digests of these texts one after the other, all of one length. So they are as good
as the digests: triples and patterns have different keys unless two of the texts collide.

## Main definitions

* `Clearance.DigestAlgorithm.CollisionFree` — algorithms that tell certain texts apart.
* `Clearance.ByHash.texts` — the terms of the nodes of two triples, and the asterisk.
* `Clearance.ByHash.nodesBytes` — the digests of nodes one after the other.

## Main results

* `Clearance.ByHash.appends_encodeTriple_iff` — which keys are written.
* `Clearance.ByHash.eq_of_nodesBytes` — equal keys are keys of one triple.
* `Clearance.ByHash.terms_and_digests_tell_apart` — terms and keys.
-/

namespace Clearance

/-- Whether no two texts of a list have the same digest. -/
def DigestAlgorithm.CollisionFree (algorithm : DigestAlgorithm) (texts : List (List Char)) : Prop :=
  ∀ s ∈ texts, ∀ s' ∈ texts,
    algorithm.digest (Utf8.encode s) = algorithm.digest (Utf8.encode s') → s = s'

instance (algorithm : DigestAlgorithm) (texts : List (List Char)) :
    Decidable (algorithm.CollisionFree texts) :=
  inferInstanceAs <| Decidable <| ∀ s ∈ texts, ∀ s' ∈ texts,
    algorithm.digest (Utf8.encode s) = algorithm.digest (Utf8.encode s') → s = s'

namespace ByHash

open EncodeM

variable {τ : Type} [NodeIds τ] {E : Error → Prop} {algorithm : DigestAlgorithm} {use : KeyUse}
  {t t' : τ} {n : Node} {q q' : Triple} {bs : Bytes}

/-- The asterisk and the terms of the concrete nodes of two triples. -/
def texts (q q' : Triple) : List (List Char) :=
  ['*'] :: ((q.nodes ++ q'.nodes).filter Node.isConcrete).map Node.term

/-- The digests of nodes one after the other. -/
def nodesBytes (algorithm : DigestAlgorithm) (ns : List Node) : Bytes :=
  ns.flatMap fun n => algorithm.digest (Utf8.encode (subject n))

/-- Only what has the asterisk and the terms can be digested. -/
theorem subject_mem_texts (hn : n ∈ q.nodes ++ q'.nodes) : subject n ∈ texts q q' := by
  by_cases hany : n = .any
  · subst hany
    exact List.mem_cons_self
  · have hconcrete : n.isConcrete = true := decide_eq_true hany
    have hsubject : subject n = n.term := by
      cases n with
      | any => exact absurd rfl hany
      | _ => rfl
    rw [hsubject]
    exact List.mem_cons_of_mem _ (List.mem_map_of_mem (List.mem_filter.2 ⟨hn, hconcrete⟩))

/-! ### Which keys are written -/

theorem writes_encodeNodes (algorithm : DigestAlgorithm) (use : KeyUse) (t : τ) (ns : List Node) :
    Writes E ((KeyFormat.byHash algorithm).encodeNodes use ns) t true
      (nodesBytes algorithm ns) t := by
  induction ns with
  | nil => exact writes_pure true t
  | cons n ns ih =>
    have hnode : Writes E ((KeyFormat.byHash algorithm).encodeNode n use) t true
        (algorithm.digest (Utf8.encode (subject n))) t := (writes_put _ t).bind_pure true
    exact hnode.bind ih

/-- The key of a triple has the digests of its nodes, whatever it is written for. -/
theorem appends_encodeTriple_iff :
    Appends ((KeyFormat.byHash algorithm).encodeTriple q use) t true bs t' ↔
      bs = nodesBytes algorithm q.nodes ∧ t' = t :=
  (writes_encodeNodes algorithm use t q.nodes).appends_iff

/-! ### Telling apart -/

theorem nodesBytes?_eq (algorithm : DigestAlgorithm) (t : NodeTable) (ns : List Node) :
    (KeyFormat.byHash algorithm).nodesBytes? t ns = some (nodesBytes algorithm ns) := by
  induction ns with
  | nil => rfl
  | cons n ns ih => exact KeyFormat.nodesBytes?_cons_eq_some.2 ⟨_, _, rfl, ih, rfl⟩

/-- Equal keys are keys of one triple, if the texts do not collide. -/
theorem eq_of_nodesBytes (hfree : algorithm.CollisionFree (texts q q'))
    (h : nodesBytes algorithm q.nodes = nodesBytes algorithm q'.nodes) : q = q' := by
  have hsuits : (KeyFormat.byHash algorithm).Suits (q.nodes ++ q'.nodes) := {
    short := by rintro ⟨⟩
    distinct := by
      rintro _ ⟨⟩ n hn m hm heq
      exact hfree _ (subject_mem_texts hn) _ (subject_mem_texts hm) heq }
  have hfits : NodeTable.empty.Fits := Nat.two_pow_pos 63
  have hkey := nodesBytes?_eq algorithm NodeTable.empty q.nodes
  have hkey' := nodesBytes?_eq algorithm NodeTable.empty q'.nodes
  exact KeyFormat.eq_of_tripleBytes? hsuits .refl hfits (List.subset_append_left _ _)
    (List.subset_append_right _ _) hkey (h ▸ hkey')

/-- **The term of a node tells which node it is, and keys of digests do so where digests do not
collide.** Every node is read back from its term, so different nodes have different terms, and none
has the asterisk. Every triple and every pattern has a key of digests, which gives no numbers; and
with an algorithm that tells apart the terms of the nodes of two triples and the asterisk, what was
ever written for the one is what was ever written for the other exactly if they are the same. -/
theorem terms_and_digests_tell_apart :
    (∀ n : Node, Node.ofTerm n.term = .ok n) ∧
    (∀ n m : Node, n.term = m.term → n = m) ∧
    (∀ n : Node, n.term ≠ ['*']) ∧
    (∀ algorithm (q : Triple) use, ∀ t : τ, ∃ bs,
      Appends ((KeyFormat.byHash algorithm).encodeTriple q use) t true bs t) ∧
    ∀ algorithm (q q' : Triple), algorithm.CollisionFree (texts q q') → ∀ bs bs',
      (∃ use, ∃ t t' : τ, Appends ((KeyFormat.byHash algorithm).encodeTriple q use) t true bs t') →
      (∃ use, ∃ t t' : τ,
        Appends ((KeyFormat.byHash algorithm).encodeTriple q' use) t true bs' t') →
      (bs = bs' ↔ q = q') := by
  refine ⟨Node.ofTerm_term, fun n m => Node.term_injective, fun n hn => ?_,
    fun algorithm q use t => ⟨_, appends_encodeTriple_iff.2 ⟨rfl, rfl⟩⟩, ?_⟩
  · -- No reader of terms takes an asterisk.
    have hread := Node.ofTerm_term n
    rw [hn] at hread
    cases hread
  · rintro algorithm q q' hfree bs bs' ⟨use, t, t', h⟩ ⟨use', u, u', h'⟩
    obtain ⟨rfl, -⟩ := appends_encodeTriple_iff.1 h
    obtain ⟨rfl, -⟩ := appends_encodeTriple_iff.1 h'
    exact ⟨eq_of_nodesBytes hfree, fun hq => by rw [hq]⟩

/-- A pattern with a wildcard and one with the URI whose term could be taken for one, stored and
looked up. Even the shortest digests tell these texts apart, so the keys differ. -/
theorem terms_and_digests_tell_apart_wildcard :
    let q : Triple := ⟨.any, .uri "p", .literal ⟨"*", .language "en"⟩⟩
    let q' : Triple := ⟨.uri "*", .uri "p", .literal ⟨"*", .language "en"⟩⟩
    DigestAlgorithm.xx32.CollisionFree (texts q q') ∧
    ∃ bs bs' : Bytes,
      Appends ((KeyFormat.byHash .xx32).encodeTriple q .lookup) NodeTable.empty true bs
        NodeTable.empty ∧
      Appends ((KeyFormat.byHash .xx32).encodeTriple q' .store) NodeTable.empty true bs'
        NodeTable.empty ∧
      bs ≠ bs' := by
  intro q q'
  obtain ⟨-, -, -, hwritten, hapart⟩ := terms_and_digests_tell_apart (τ := NodeTable)
  obtain ⟨bs, h⟩ := hwritten .xx32 q .lookup NodeTable.empty
  obtain ⟨bs', h'⟩ := hwritten .xx32 q' .store NodeTable.empty
  have hfree : DigestAlgorithm.xx32.CollisionFree (texts q q') := by decide +kernel
  have hiff := hapart .xx32 q q' hfree bs bs' ⟨_, _, _, h⟩ ⟨_, _, _, h'⟩
  exact ⟨hfree, bs, bs', h, h', fun heq => absurd (hiff.1 heq) (by decide)⟩

end ByHash

end Clearance
