import Clearance.Proofs.SharedStore.Lifetime

/-!
# The numbers of nodes

A persistent store whose keys hold numbers gives every node its number once and for all. Through
requests that succeed or fail and through restarts, the table in memory is what the rows of the
database say: the numbers 1, 2, 3, … with the nodes in the same order. Every key can be read back
with the table, to a pattern that belongs where the key is stored. Lookups give no numbers.

## Main results

* `Clearance.PersistentStore.decodeKey_of_isEntryOf` — keys are read back.
* `Clearance.SharedStore.numbers_keep_their_nodes`.
-/

namespace Clearance

open NodeTable
open PersistentStore (IsEntryOf)

namespace PersistentStore

variable {t : NodeTable} {space : Keyspace} {k : Bytes} {q : Triple} {shape : Shape}

/-- **Keys are read back** with the table of nodes. -/
theorem decodeKey_of_isEntryOf (ht : NodeTable.empty.Extends t) (hfits : t.Fits)
    (h : IsEntryOf .byNodeId t space k q shape) : decodeKey .byNodeId t space k = .ok q := by
  obtain ⟨hshape, rfl, hk⟩ := h
  exact decodeKey_of_key? rfl ht hfits hshape nofun hk

end PersistentStore

namespace SharedStore

variable {σ τ : SharedStore} {s : PersistentStore} {dir : String} {ops later : List Op}

/-- **Numbers keep their nodes.** Consider a persistent store whose keys hold numbers, whatever it
has lived through. The rows of its database are the terms of the nodes of its table, in the same
order, under the numbers 1, 2, 3, …; they are read back as these nodes; and with the table, a node
has a number exactly if the number has the node. Every key that is stored can be read to its end, as
a pattern of a shape that belongs in the table of the key, with the kinds that the key tells.
Whatever becomes of the store, its rows and numbers stay. Lookups leave the table and the database
as they are, and nothing that they write into a buffer gives a number. -/
theorem numbers_keep_their_nodes (hσ : Lived dir ops σ) (hs : σ.store = .persistent s)
    (hformat : s.options.format = .byNodeId) :
    let numbered := s.table.nodes.toList.zipIdx 1
    s.db.nodes.toList = numbered.map (fun (n, id) => ((id : Int), String.ofList n.term)) ∧
    PersistentStore.savedNodes s.db = .ok (numbered.map fun (n, id) => (id, n)) ∧
    (∀ n id, s.table.idFor? n = some id ↔ s.table.nodeFor? id = some n) ∧
    (∀ id, (∃ n, s.table.nodeFor? id = some n) ↔ 0 < id ∧ id ≤ s.table.size) ∧
    (∀ space k v, s.db.find? space k = some v → ∃ q shape,
      PersistentStore.decodeKey .byNodeId s.table space k = .ok q ∧
        IsEntryOf .byNodeId s.table space k q shape) ∧
    (∀ later τ, Leads σ later τ → ∃ s', τ.store = .persistent s' ∧
      s.db.nodes.toList <+: s'.db.nodes.toList ∧
        ∀ id n, s.table.nodeFor? id = some n → s'.table.nodeFor? id = some n) ∧
    (∀ t, ∃ s', ((lookup t).run.run σ).2.store = .persistent s' ∧ s'.db = s.db ∧
      s'.table = s.table) ∧
    ∀ shape q sheet, ((PersistentStore.encodeKey s.options.format shape q .lookup).run.run
      sheet).2.table = sheet.table := by
  obtain ⟨s', hs', h⟩ := hσ.exists_sound (Q := fun _ => True) fun _ _ _ _ => trivial
  obtain rfl : s = s' := Store.persistent.inj (hs.symm.trans hs')
  have hsaved : s.table.SavedIn s.db := h.coherent.saved
  have hnodes := PersistentStore.savedNodes_eq hsaved h.fits
  have hrows := hsaved
  rw [SavedIn, termRows, allocatedSince_zero, List.map_map, List.map_map] at hrows
  rw [allocatedSince_zero] at hnodes
  refine ⟨hrows, hnodes, fun n id => idFor?_eq_some_iff h.grown, fun id => exists_nodeFor?_iff,
    fun space k v hfind => ?_, fun later τ hleads => ?_, fun t => ?_, fun shape q sheet => ?_⟩
  · obtain ⟨q, shape, -, hentry, -⟩ := h.keyed space k v hfind
    rw [hformat] at hentry
    exact ⟨q, shape, PersistentStore.decodeKey_of_isEntryOf h.grown h.fits hentry, hentry⟩
  · obtain ⟨s', hs', h'⟩ := exists_of_leads hs h hleads
    have hsaved' : s'.table.SavedIn s'.db := h'.coherent.saved
    refine ⟨s', hs', ?_, fun id n hid => h'.numbers.nodeFor?_eq hid⟩
    rw [hsaved, hsaved']
    exact h'.numbers.termRows_prefix.map _
  · obtain ⟨cache, reads, hstate, -⟩ := s.state_lookup t
    refine ⟨{ s with cache, reads }, ?_, rfl, rfl⟩
    rw [lookup, run_onStore, hs, Store.run_lookup_persistent, hstate]
  · exact PersistentStore.table_encodeKey_lookup s.options.format shape q sheet

/-- An addition, a batch that is refused after it gave a number, a restart, and another addition. -/
def renumbering : List Op :=
  [.addAlone ⟨.uri "s", .uri "p", .any⟩ [.allow],
    .apply [.add ⟨.uri "r", .any, .any⟩ [.allow], .remove ⟨.any, .any, .any⟩], .close, .reopen,
    .addAlone ⟨.blank "b", .any, .any⟩ [.deny]]

/-- A store whose keys hold numbers after these requests. -/
def renumbered : SharedStore :=
  (run renumbering
    { store := .persistent (PersistentStore.fresh "labels" { format := .byNodeId }) }).2

theorem numbers_keep_their_nodes_renumbered :
    ∃ s, renumbered.store = .persistent s ∧ s.options.format = .byNodeId ∧
      s.table.nodeFor? 3 = some (.blank "b") ∧ ∀ later τ, Leads renumbered later τ →
        ∃ s', τ.store = .persistent s' ∧ s'.table.nodeFor? 3 = some (.blank "b") := by
  have hlived : Lived "labels" renumbering renumbered := lived_run _ _ _
  have hstate : (renumbered.store.persistent?.map fun s =>
      (s.options.format, s.table.idFor? (.blank "b"))) = some (.byNodeId, some 3) := by
    decide +kernel
  obtain ⟨s, hs, -⟩ := hlived.exists_sound (Q := fun _ => True) fun _ _ _ _ => trivial
  rw [hs] at hstate
  simp only [Store.persistent?, Option.map_some, Option.some.injEq, Prod.mk.injEq] at hstate
  obtain ⟨hformat, hid⟩ := hstate
  obtain ⟨-, -, hinverse, -, -, hstay, -⟩ := numbers_keep_their_nodes hlived hs hformat
  have hnode := (hinverse _ _).1 hid
  refine ⟨s, hs, hformat, hnode, fun later τ hleads => ?_⟩
  obtain ⟨s', hs', -, hkept⟩ := hstay later τ hleads
  exact ⟨s', hs', hkept _ _ hnode⟩

end SharedStore

end Clearance
