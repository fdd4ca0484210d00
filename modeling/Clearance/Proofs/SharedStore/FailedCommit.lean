import Clearance.Proofs.SharedStore.History
import Clearance.Proofs.SharedStore.Steps

/-!
# Commits that fail

When a persistent store refuses changes, whether they were collected by a transaction, made alone or
handed over as a batch, nothing remains of them. The transaction has ended as if it had been
aborted; the store, all that it remembers and the count of commits are what they were.

## Main definitions

* `Clearance.SharedStore.Op.HandsChanges`, `Clearance.SharedStore.Op.withoutChanges` — the requests
  that hand changes to a store, and what they do beside that.

## Main results

* `Clearance.SharedStore.failed_changes_leave_no_trace`.
-/

namespace Clearance.SharedStore

variable {σ : SharedStore} {s : PersistentStore} {batch : List Change} {e : Error}

/-- Whether a request hands changes to the store. -/
def Op.HandsChanges : Op → Prop
  | .commit _ => True
  | .addAlone _ _ => True
  | .apply _ => True
  | _ => False

/-- What a request that hands changes to the store does beside that: a commit ends its
transaction. -/
def Op.withoutChanges : Op → SharedM Unit
  | .commit x => SharedStore.abort x
  | _ => return ()

/-! ### The parts -/

theorem apply_eq_of_error (hs : σ.store = .persistent s)
    (hfail : ((Store.apply batch).run.run σ.store).1 = .error e) :
    (Store.apply batch).run.run σ.store = (.error e, σ.store) := by
  rw [hs, Store.run_apply_persistent] at hfail ⊢
  cases hwritten : s.written batch with
  | ok s' =>
    rw [hwritten] at hfail
    cases hfail
  | error e' =>
    rw [hwritten] at hfail
    cases hfail
    rfl

theorem commitChanges_eq_of_error (hs : σ.store = .persistent s)
    (hfail : ((commitChanges batch).run.run σ).1 = .error e) :
    (commitChanges batch).run.run σ = (.error e, σ) := by
  rw [run_commitChanges] at hfail ⊢
  by_cases hempty : batch.isEmpty
  · rw [if_pos hempty] at hfail
    cases hfail
  rw [if_neg hempty] at hfail ⊢
  rcases hrun : (Store.apply batch).run.run σ.store with ⟨e' | a, S⟩
  · rw [hrun] at hfail
    cases hfail
    have hsame := apply_eq_of_error hs (congrArg Prod.fst hrun)
    rw [hrun] at hsame
    cases hsame
    rfl
  · rw [hrun] at hfail
    cases hfail

theorem commit_eq_of_error {x : String} (hs : σ.store = .persistent s)
    (hfail : ((commit x).run.run σ).1 = .error e) :
    (commit x).run.run σ = (.error e, ((abort x).run.run σ).2) := by
  rw [run_commit] at hfail ⊢
  rw [run_abort]
  cases htxn : σ.txns[x]? with
  | none =>
    rw [htxn] at hfail
    cases hfail
    rfl
  | some t =>
    rw [htxn] at hfail
    dsimp only at hfail ⊢
    have hended : (σ.ended x t).store = .persistent s := hs
    cases hmode : t.mode with
    | read =>
      rw [hmode] at hfail
      cases hfail
    | write =>
      rw [hmode] at hfail
      exact commitChanges_eq_of_error hended hfail

theorem addAlone_eq_of_error {pattern : Triple} {labels : List Label}
    (hs : σ.store = .persistent s) (hfail : ((addAlone pattern labels).run.run σ).1 = .error e) :
    (addAlone pattern labels).run.run σ = (.error e, σ) := by
  rw [run_addAlone] at hfail ⊢
  by_cases hactive : σ.writerActive
  · rw [if_pos hactive] at hfail
    cases hfail
  rw [if_neg hactive] at hfail ⊢
  cases hcheck : σ.store.checkEntry pattern labels with
  | error e' =>
    rw [hcheck] at hfail
    cases hfail
    rfl
  | ok a =>
    rw [hcheck] at hfail
    dsimp only at hfail ⊢
    rcases hrun : (commitChanges [.add pattern labels]).run.run σ with ⟨e' | b, σ'⟩
    · rw [hrun] at hfail
      cases hfail
      have hsame := commitChanges_eq_of_error hs (congrArg Prod.fst hrun)
      rw [hrun] at hsame
      cases hsame
      rfl
    · rw [hrun] at hfail
      cases hfail

/-! ### Requests that hand changes over -/

/-- A request that fails does what it does without its changes. -/
theorem state_eq_withoutChanges (hs : σ.store = .persistent s) {op : Op} (hop : op.HandsChanges)
    (hfail : (op.perform.run.run σ).1 = .error e) :
    (op.perform.run.run σ).2 = (op.withoutChanges.run.run σ).2 := by
  have herror {α : Type} {r : Except Error α} {f : α → Answer} (h : r.map f = .error e) :
      r = .error e := by
    cases r with
    | ok a => cases h
    | error e' =>
      cases h
      rfl
  cases op with
  | commit x =>
    rw [Op.perform, run_map] at hfail ⊢
    rw [commit_eq_of_error hs (herror hfail)]
    rfl
  | addAlone pattern labels =>
    rw [Op.perform, run_map] at hfail ⊢
    rw [addAlone_eq_of_error hs (herror hfail)]
    rfl
  | apply batch =>
    rw [Op.perform, run_map, run_onStore] at hfail ⊢
    rw [apply_eq_of_error hs (herror hfail)]
    rfl
  | _ => exact hop.elim

/-- **Commits that fail leave no trace.** Whatever a persistent store has been through, when it
refuses changes — those of a transaction that commits, labels that are added alone, or a batch of
any making — the store is left exactly as it was: rows, settings, the rows and the table of numbers,
the mark for wildcards, the count of batches, the cache and the count of commits. The transaction is
where an abort would have left it, so that every later history has the answers and leads to the rows
that it would have without the changes. -/
theorem failed_changes_leave_no_trace (hs : σ.store = .persistent s) {op : Op}
    (hop : op.HandsChanges) (hfail : (op.perform.run.run σ).1 = .error e) :
    let failed := (op.perform.run.run σ).2
    let untried := (op.withoutChanges.run.run σ).2
    failed.store = .persistent s ∧ failed.commits = σ.commits ∧ failed = untried ∧
      ∀ later : List Op, run later failed = run later untried := by
  have hsame := state_eq_withoutChanges hs hop hfail
  have huntried : (op.withoutChanges.run.run σ).2.store = σ.store ∧
      (op.withoutChanges.run.run σ).2.commits = σ.commits := by
    cases op with
    | commit x => exact store_abort x σ
    | _ => exact ⟨rfl, rfl⟩
  refine ⟨?_, ?_, hsame, fun later => by rw [hsame]⟩
  · rw [hsame, huntried.1, hs]
  · rw [hsame, huntried.2]

/-- A store with small buffers, on which a transaction has collected labels that fit and labels that
do not. Both changes have nodes without a number. -/
def crowded : SharedStore :=
  { store := .persistent
      { dir := "labels", options := { format := .byNodeId, bufferCapacity := 12 }, db := {},
        table := .empty, patternsLoaded := false, cache := { capacity := 1 } }
    writerActive := true
    txns := Std.ExtTreeMap.empty.insert "x"
      ⟨.write, .write, [.add ⟨.uri "s", .uri "p", .uri "o"⟩ [],
        .add ⟨.blank "b", .uri "p", .any⟩ [{ bytes := [97, 98, 99, 100, 101] }]]⟩ }

theorem failed_changes_leave_no_trace_crowded :
    ∃ e, ((Op.commit "x").perform.run.run crowded).1 = .error e ∧
      ((Op.commit "x").perform.run.run crowded).2.store = crowded.store := by
  have hop : (Op.commit "x").HandsChanges := trivial
  have hfail : ((Op.commit "x").perform.run.run crowded).1.isOk = false := by decide +kernel
  rcases h : ((Op.commit "x").perform.run.run crowded).1 with e | a
  · exact ⟨e, rfl, (failed_changes_leave_no_trace (σ := crowded) rfl hop h).1⟩
  · rw [h] at hfail
    cases hfail

end Clearance.SharedStore
