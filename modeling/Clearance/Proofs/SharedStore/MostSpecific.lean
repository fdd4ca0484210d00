import Clearance.Proofs.MemoryStore.Contents
import Clearance.Proofs.SharedStore.Protocol

/-!
# The most specific pattern

After any history of transactions, the labels of a concrete triple in a store that is kept in memory
are those of the most specific pattern that the triple matches, among the patterns whose last
committed change recorded labels.

## Main results

* `Clearance.Store.exists_holds_of_replay` — the contents of a store after changes.
* `Clearance.SharedStore.lookup_finds_most_specific`.
-/

namespace Clearance

open MemoryStore (Holds IsCandidate)

theorem Store.exists_holds_of_replay {R : Store} : ∀ {more cs : List Change} {m : MemoryStore},
    Holds cs m → (Store.memory m).replay more = some R → ∃ m', R = .memory m' ∧
      Holds (cs ++ more) m'
  | [], cs, m, h, hreplay => by
    cases hreplay
    rw [List.append_nil]
    exact ⟨m, rfl, h⟩
  | c :: more, cs, m, h, hreplay => by
    rw [replay, run_apply_memory] at hreplay
    rcases happly : m.apply [c] with ⟨e | a, m₁⟩
    · rw [happly] at hreplay
      cases hreplay
    · rw [happly] at hreplay
      have hrest := exists_holds_of_replay (h.apply happly) hreplay
      rwa [List.append_assoc] at hrest

namespace SharedStore

/-- **The most specific match.** After any history of transactions, of changes that are made alone
and of lookups on a new store in memory, consider the labels that the last committed change about
each canonical pattern recorded, unless it removed them. If any pattern that a concrete triple
matches has labels, a lookup of the triple gives the labels of one of them whose shape comes before
the shapes of all others; otherwise it gives none. A lookup of a triple with a wildcard is
refused. -/
theorem lookup_finds_most_specific {ops : List Op} (hops : ∀ op ∈ ops, op.IsTransactional)
    (t : Triple) :
    let answer := ((lookup t).run.run (run ops { store := .memory {} }).2).1
    let changes := (ledger ops { store := .memory {} }).committed
    (t.isConcrete = false → answer = .error (.invalid (.lookupOfPattern t.canonical))) ∧
      (t.isConcrete = true → ∃ ls, answer = .ok ls ∧
        ((ls = [] ∧ ∀ q ls', ¬ IsCandidate changes t.canonical q ls') ∨
          ∃ q shape, IsCandidate changes t.canonical q ls ∧ Shape.ofPattern? q = some shape ∧
            ∀ q' ls', IsCandidate changes t.canonical q' ls' → q' = q ∨
              ∃ shape', Shape.ofPattern? q' = some shape' ∧ shape.rank < shape'.rank)) := by
  obtain ⟨-, hdescribes⟩ := describes_ledger (.memory {}) hops
  obtain ⟨R, hreplay, hreplica⟩ := hdescribes.replica
  obtain ⟨m, rfl, hholds⟩ := Store.exists_holds_of_replay MemoryStore.holds_nil hreplay
  have hrun : ((lookup t).run.run (run ops { store := .memory {} }).2).1 = m.lookup t := by
    rw [lookup, run_onStore]
    exact (hreplica.lookup_eq t).trans (congrArg Prod.fst (Store.run_lookup_memory m t))
  dsimp only
  rw [hrun]
  exact ⟨MemoryStore.lookup_of_not_concrete, hholds.exists_lookup⟩

/-- Labels for a pattern, for a triple of it and for all triples with its predicate. Those of the
triple are removed again, under another text of its number. -/
def overridden : List Op :=
  let number (text : String) : Node :=
    .literal ⟨text, .datatype "http://www.w3.org/2001/XMLSchema#integer"⟩
  [.addAlone ⟨.any, .uri "p", .any⟩ [.allow], .start "x" .write,
    .add "x" ⟨.uri "s", .uri "p", .any⟩ [.deny], .add "x" ⟨.uri "s", .uri "p", number "1"⟩ [.allow],
    .commit "x", .removeAlone ⟨.uri "s", .uri "p", number "01"⟩]

theorem lookup_finds_most_specific_overridden :
    let t : Triple := ⟨.uri "s", .uri "p",
      .literal ⟨"1", .datatype "http://www.w3.org/2001/XMLSchema#integer"⟩⟩
    ((lookup t).run.run (run overridden { store := .memory {} }).2).1 = .ok [.deny] ∧
      ∃ q shape, Shape.ofPattern? q = some shape ∧
        IsCandidate (ledger overridden { store := .memory {} }).committed t.canonical q
          [.deny] := by
  intro t
  have hops : ∀ op ∈ overridden, op.IsTransactional := by simp [overridden, Op.IsTransactional]
  have hanswer : ((lookup t).run.run (run overridden { store := .memory {} }).2).1
      = .ok [.deny] := eq_ok_of_toOption (by decide +kernel)
  obtain ⟨ls, hls, hspec⟩ := (lookup_finds_most_specific hops t).2 (by decide)
  obtain rfl := Except.ok.inj (hls.symm.trans hanswer)
  rcases hspec with ⟨hnil, -⟩ | ⟨q, shape, hq, hshape, -⟩
  · cases hnil
  · exact ⟨hls, q, shape, hshape, hq⟩

end SharedStore

end Clearance
