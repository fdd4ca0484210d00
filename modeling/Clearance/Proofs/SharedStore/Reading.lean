import Clearance.Proofs.SharedStore.Protocol

/-!
# What readers see

A transaction that only reads is open until it is ended by name, whatever other transactions do. It
is no view of the store as it was when the transaction began: a lookup is answered from what is
committed when the lookup is made. So a reader never sees what another transaction has only
collected, and sees every commit as soon as it is made; its lookups agree as long as nothing is
committed between them.

## Main definitions

* `Clearance.SharedStore.Op.Ends` — the requests that end a transaction.

## Main results

* `Clearance.SharedStore.txn_of_outcome`, `Clearance.SharedStore.txn_of_run` — readers stay open.
* `Clearance.SharedStore.readers_see_what_is_committed`
* `Clearance.SharedStore.readers_see_later_commits` — what was committed after a reader began.
-/

namespace Clearance.SharedStore

variable {σ σ' : SharedStore} {S : Store} {x y : String} {t : Txn} {c : Change} {op : Op}
  {r : Except Error Answer} {ops before early late : List Op}

/-! ### Readers stay open -/

/-- Whether a request ends the transaction with a name, or lets the name stand for another one. -/
def Op.Ends (x : String) : Op → Prop
  | .start y _ => y = x
  | .commit y => y = x
  | .abort y => y = x
  | .discard y => y = x
  | _ => False

theorem Promotion.txn_eq {r : Except Error Bool} (h : Promotion y σ r σ')
    (ht : σ.txns[x]? = some t) (htype : t.type = .read) : σ'.txns[x]? = some t := by
  cases h with
  | @turns u hu hmode hpromotes hfree =>
    have hne : y ≠ x := by
      rintro rfl
      rw [ht] at hu
      cases hu
      rw [htype] at hpromotes
      cases hpromotes
    rw [getElem?_promoted, if_neg hne, ht]
  | _ => exact ht

theorem Collection.txn_eq {r : Except Error Unit} (h : Collection y c σ r σ')
    (ht : σ.txns[x]? = some t) (htype : t.type = .read) (hmode : t.mode = .read) :
    σ'.txns[x]? = some t := by
  cases h with
  | notWriter => exact ht
  | refused hpromotion => exact hpromotion.txn_eq ht htype
  | @accepted τ u hpromotion hu hwrite =>
    have hx := hpromotion.txn_eq ht htype
    have hne : y ≠ x := by
      rintro rfl
      rw [hx] at hu
      cases hu
      rw [hmode] at hwrite
      cases hwrite
    rw [getElem?_collected, if_neg hne, hx]

theorem Op.Finishes.ends (h : op.Finishes x) : op.Ends x := by
  cases h <;> rfl

/-- **A reader stays open**, and stays a reader, until it is ended. -/
theorem txn_of_outcome (h : Outcome σ op r σ') (hop : op.IsTransactional) (hends : ¬ op.Ends x)
    (ht : σ.txns[x]? = some t) (htype : t.type = .read) (hmode : t.mode = .read) :
    σ'.txns[x]? = some t := by
  cases h with
  | reads y hwrite hoffered =>
    have hne : y ≠ x := hends
    rw [getElem?_entered, if_neg hne, ht]
  | writes y hfree =>
    have hne : y ≠ x := hends
    rw [getElem?_entered, if_neg hne, ht]
  | promotes hpromotion => exact hpromotion.txn_eq ht htype
  | collects hcollects hcollection => exact hcollection.txn_eq ht htype hmode
  | @ends y op u events hfinishes hu hcommit =>
    have hne : y ≠ x := by
      rintro rfl
      exact hends hfinishes.ends
    have hended := getElem?_ended σ y u x
    rwa [if_neg hne, ht] at hended
  | @commits y u hu hwrite =>
    have hne : y ≠ x := hends
    rw [txns_commitChanges, getElem?_ended, if_neg hne, ht]
  | applies halone hfree haccepts => rw [txns_commitChanges, ht]
  | reopens hs hattach => exact hop.elim
  | _ => exact ht

theorem txn_of_run : ∀ {ops : List Op} {σ : SharedStore},
    (∀ op ∈ ops, op.IsTransactional ∧ ¬ op.Ends x) → σ.txns[x]? = some t → t.type = .read →
      t.mode = .read → (run ops σ).2.txns[x]? = some t
  | [], σ, _, ht, _, _ => ht
  | op :: ops, σ, hops, ht, htype, hmode => by
    obtain ⟨hop, hends⟩ := hops op List.mem_cons_self
    have hrest : ∀ op' ∈ ops, op'.IsTransactional ∧ ¬ op'.Ends x :=
      fun op' hop' => hops op' (List.mem_cons_of_mem op hop')
    rw [run_cons]
    exact txn_of_run hrest (txn_of_outcome (outcome_perform op σ) hop hends ht htype hmode) htype
      hmode

theorem run_append (ops more : List Op) (σ : SharedStore) :
    (run (ops ++ more) σ).2 = (run more (run ops σ).2).2 := by
  induction ops generalizing σ with
  | nil => rfl
  | cons op ops ih => exact ih (op.perform.run.run σ).2

/-! ### Lookups -/

/-- A store answers lookups from what its ledger has as committed. -/
theorem Ledger.Describes.lookup_eq {l : Ledger} (h : l.Describes S σ) :
    ∃ R, S.replay l.committed = some R ∧
      ∀ t, ((lookup t).run.run σ).1 = ((Store.lookup t).run.run R).1 := by
  obtain ⟨R, hreplay, hreplica⟩ := h.replica
  refine ⟨R, hreplay, fun t => ?_⟩
  rw [lookup, run_onStore]
  exact hreplica.lookup_eq t

/-- **Readers see what is committed.** A transaction that only reads begins on any store after any
history, and any history of other transactions goes on. The reader is open, and its lookups are
answered from the changes that are committed by then, one after the other, and from nothing else; so
they are answered alike as long as nothing is committed between them. -/
theorem readers_see_what_is_committed (hS : S.Opened ∨ S = .empty)
    (hbefore : ∀ op ∈ before, op.IsTransactional)
    (hduring : ∀ op ∈ early ++ late, op.IsTransactional ∧ ¬ op.Ends x) :
    let σ := (run (before ++ .start x .read :: early) { store := S }).2
    let σ' := (run (before ++ .start x .read :: (early ++ late)) { store := S }).2
    let told := ledger (before ++ .start x .read :: early) { store := S }
    let told' := ledger (before ++ .start x .read :: (early ++ late)) { store := S }
    σ'.txns[x]? = some { type := .read, mode := .read } ∧
      (∃ R, S.replay told'.committed = some R ∧
        ∀ t, ((lookup t).run.run σ').1 = ((Store.lookup t).run.run R).1) ∧
      (told'.committed = told.committed →
        ∀ t, ((lookup t).run.run σ').1 = ((lookup t).run.run σ).1) := by
  intro σ σ' told told'
  have hreplica : Store.Replica S S := by
    rcases hS with hS | rfl
    · exact hS.replica
    · exact .empty
  have hops {during : List Op} (h : ∀ op ∈ during, op.IsTransactional ∧ ¬ op.Ends x) :
      ∀ op ∈ before ++ .start x .read :: during, op.IsTransactional := by
    intro op hop
    rcases List.mem_append.1 hop with hop | hop
    · exact hbefore op hop
    rcases List.mem_cons.1 hop with rfl | hop
    · exact trivial
    · exact (h op hop).1
  have hdescribes : told.Describes S σ :=
    (describes_ledger hreplica (hops fun op hop => hduring op (List.mem_append_left _ hop))).2
  have hdescribes' : told'.Describes S σ' := (describes_ledger hreplica (hops hduring)).2
  obtain ⟨R, hreplay, hlookup⟩ := hdescribes.lookup_eq
  obtain ⟨R', hreplay', hlookup'⟩ := hdescribes'.lookup_eq
  refine ⟨?_, ⟨R', hreplay', hlookup'⟩, fun hsame u => ?_⟩
  · let τ := (run before { store := S }).2
    have hbegun : (τ.entered x { type := .read, mode := .read }).txns[x]? =
        some { type := .read, mode := .read } := by
      rw [getElem?_entered, if_pos rfl]
    have hσ' : σ' = (run (early ++ late) (τ.entered x { type := .read, mode := .read })).2 := by
      show (run (before ++ .start x .read :: (early ++ late)) { store := S }).2 = _
      rw [run_append, run_cons, Op.perform, run_map, run_start_reader (by simp) (by simp)]
    rw [hσ']
    exact txn_of_run hduring hbegun rfl rfl
  · obtain rfl : R' = R := by
      rw [hsame, hreplay] at hreplay'
      exact (Option.some.inj hreplay').symm
    rw [hlookup', hlookup]

/-- A reader, and a writer whose changes it sees as soon as they are committed. -/
theorem readers_see_what_is_committed_meanwhile :
    let t : Triple := ⟨.uri "s", .uri "p", .uri "o"⟩
    let before : List Op := [.addAlone t [.allow]]
    let collected : List Op := [.start "w" .write, .add "w" t [.deny]]
    let σ := (run (before ++ .start "x" .read :: collected) { store := .memory {} }).2
    let σ' := (run (before ++ .start "x" .read :: (collected ++ [.commit "w"]))
      { store := .memory {} }).2
    ((lookup t).run.run σ).1 = .ok [.allow] ∧ ((lookup t).run.run σ').1 = .ok [.deny] ∧
      ∃ R, (Store.memory {}).replay [.add t [.allow], .add t [.deny]] = some R ∧
        ((lookup t).run.run σ').1 = ((Store.lookup t).run.run R).1 := by
  intro t before collected σ σ'
  have hbefore : ∀ op ∈ before, op.IsTransactional := by simp [before, Op.IsTransactional]
  have hduring : ∀ op ∈ collected ++ [.commit "w"], op.IsTransactional ∧ ¬ op.Ends "x" := by
    simp [collected, Op.IsTransactional, Op.Ends]
  have hcommitted :
      (ledger (before ++ .start "x" .read :: (collected ++ [.commit "w"]))
        { store := .memory {} }).committed = [.add t [.allow], .add t [.deny]] := by decide +kernel
  obtain ⟨-, ⟨R, hreplay, hlookup⟩, -⟩ :=
    readers_see_what_is_committed (.inl (.memory {})) hbefore hduring
  rw [hcommitted] at hreplay
  exact ⟨eq_ok_of_toOption (by decide +kernel), eq_ok_of_toOption (by decide +kernel), R, hreplay,
    hlookup t⟩

/-- **Readers see later commits:** a transaction that only reads looks up a triple before and after
another transaction is committed, and gets two answers. -/
theorem readers_see_later_commits :
    let t : Triple := ⟨.uri "s", .uri "p", .uri "o"⟩
    let σ := (run [.start "x" .read] { store := .memory {} }).2
    let σ' := (run [.start "w" .write, .add "w" t [.deny], .commit "w"] σ).2
    σ.txns["x"]? = some { type := .read, mode := .read } ∧
      σ'.txns["x"]? = some { type := .read, mode := .read } ∧
      ((lookup t).run.run σ).1 = .ok [] ∧ ((lookup t).run.run σ').1 = .ok [.deny] := by
  intro t σ σ'
  exact ⟨by decide +kernel, by decide +kernel, eq_ok_of_toOption (by decide +kernel),
    eq_ok_of_toOption (by decide +kernel)⟩

end Clearance.SharedStore
