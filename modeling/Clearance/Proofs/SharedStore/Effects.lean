import Clearance.Proofs.SharedStore.Pending

/-!
# What requests do to a store

However a request is made, it does one of a few things to the store itself: it hands over a batch of
changes, which is taken or refused, it reads, or it closes the store or opens it again. The changes
in a batch have been collected by a transaction or come with the request. So every property of a
store that these few things keep is kept by every history, also one that speaks of the changes that
the store has taken.

## Main definitions

* `Clearance.SharedStore.Op.Provides` — requests that provide changes of a kind only.
* `Clearance.SharedStore.Op.isChecked` — requests whose changes are checked.
* `Clearance.SharedStore.Op.taken`, `Clearance.SharedStore.taken` — the changes that a store takes
  at a request, and in a history.
* `Clearance.Store.Effect` — what a request may do to a store.

## Main results

* `Clearance.SharedStore.Outcome.effect`, `Clearance.SharedStore.effect_perform` — a request has
  such an effect.
* `Clearance.SharedStore.effects_run` — properties of a store and the changes that it has taken.
* `Clearance.SharedStore.forall_taken` — the changes themselves.
-/

namespace Clearance

/-- What a request may do to a store, given the changes that the store takes then. All changes that
are handed over have a property. -/
inductive Store.Effect (P : Change → Prop) (S : Store) : List Change → Store → Prop where
  /-- Nothing is done to the store. -/
  | none : Effect P S [] S
  /-- A batch is taken. -/
  | taken {batch : List Change} {S' : Store} (hbatch : ∀ c ∈ batch, P c)
    (h : (Store.apply batch).run.run S = (.ok (), S')) : Effect P S batch S'
  /-- A batch is refused. -/
  | refused {batch : List Change} {S' : Store} {e : Error} (hbatch : ∀ c ∈ batch, P c)
    (h : (Store.apply batch).run.run S = (.error e, S')) : Effect P S [] S'
  /-- A triple is looked up. -/
  | lookup (t : Triple) : Effect P S [] ((Store.lookup t).run.run S).2
  /-- The store is asked whether nothing is recorded. -/
  | isEmpty : Effect P S [] (Store.isEmpty.run.run S).2
  /-- The entries are listed. -/
  | graph : Effect P S [] (Store.graph.run.run S).2
  /-- The store is asked what there is to know of it. -/
  | properties : Effect P S [] (Store.properties.run.run S).2
  /-- The store is closed. -/
  | closed {s : PersistentStore} (hs : S = .persistent s) :
    Effect P S [] (.persistent { s with closed := true })
  /-- The database is opened again. -/
  | reopened {s s' : PersistentStore} {db : Database} (hs : S = .persistent s)
    (h : (PersistentStore.attach s.dir s.access s.options).run.run s.db = (.ok s', db)) :
    Effect P S [] (.persistent s')

/-- The changes that a store takes are among those that are handed over. -/
theorem Store.Effect.forall_mem {P : Change → Prop} {S S' : Store} {cs : List Change}
    (h : S.Effect P cs S') : ∀ c ∈ cs, P c := by
  cases h with
  | taken hbatch _ => exact hbatch
  | _ => exact List.forall_mem_nil P

namespace SharedStore

variable {P : Change → Prop} {σ : SharedStore} {op : Op}

/-! ### The changes of a request -/

/-- Whether a request provides changes with a property only, given that additions are checked. A
batch that no transaction has collected is not checked. -/
def Op.Provides (P : Change → Prop) : Op → Prop
  | .add _ pattern labels =>
    ∀ S : Store, S.checkEntry pattern labels = .ok () → P (.add pattern labels)
  | .addAlone pattern labels =>
    ∀ S : Store, S.checkEntry pattern labels = .ok () → P (.add pattern labels)
  | .remove _ pattern => P (.remove pattern)
  | .removeAlone pattern => P (.remove pattern)
  | .apply batch => ∀ c ∈ batch, P c
  | _ => True

/-- Whether a request hands over changes only that are checked. A batch that no transaction has
collected is not. -/
def Op.isChecked : Op → Bool
  | .apply _ => false
  | _ => true

/-- A request whose changes are checked provides changes of a kind only if the check admits no
others. -/
theorem Op.Provides.of_isChecked {op : Op} (h : op.isChecked = true)
    (hadd : ∀ (S : Store) (pattern : Triple) (labels : List Label),
      S.checkEntry pattern labels = .ok () → P (.add pattern labels))
    (hremove : ∀ pattern, P (.remove pattern)) : op.Provides P := by
  cases op with
  | add x pattern labels => exact fun S => hadd S pattern labels
  | addAlone pattern labels => exact fun S => hadd S pattern labels
  | remove x pattern => exact hremove pattern
  | removeAlone pattern => exact hremove pattern
  | apply batch => cases h
  | _ => trivial

/-- Whether an answer says that what was asked for was done. -/
def Answer.isDone : Except Error Answer → Bool
  | .ok (.flag b) => b
  | .ok _ => true
  | .error _ => false

/-- The changes that a request would have the store take. -/
def Op.batch (op : Op) (σ : SharedStore) : List Change :=
  match op with
  | .commit x => match σ.txns[x]? with
    | some t => match t.mode with
      | .read => []
      | .write => t.pending
    | none => []
  | .addAlone pattern labels => [.add pattern labels]
  | .removeAlone pattern => [.remove pattern]
  | .apply batch => batch
  | _ => []

/-- The changes that a store takes at a request. -/
def Op.taken (op : Op) (σ : SharedStore) : List Change :=
  if Answer.isDone (op.perform.run.run σ).1 then op.batch σ else []

/-- The changes that a store takes in a history, in order. -/
def taken : List Op → SharedStore → List Change
  | [], _ => []
  | op :: ops, σ => op.taken σ ++ taken ops (op.perform.run.run σ).2

/-- Transactions collect only changes of the kind that requests provide. -/
theorem Collected.perform_of_provides (hσ : Collected P σ) (hop : op.Provides P) :
    Collected P (op.perform.run.run σ).2 := by
  refine hσ.outcome (outcome_perform op σ) fun x c hcollects haccepts => ?_
  cases hcollects with
  | add pattern labels => exact hop σ.store haccepts
  | remove pattern => exact hop

/-! ### Effects -/

/-- A batch is taken or refused, unless it is empty. -/
theorem effect_commitChanges {batch : List Change} (hbatch : ∀ c ∈ batch, P c) :
    Store.Effect P σ.store
      (if ((commitChanges batch).run.run σ).1.isOk then batch else [])
      ((commitChanges batch).run.run σ).2.store := by
  rw [run_commitChanges]
  split
  · next hempty =>
    rw [List.isEmpty_iff.1 hempty]
    exact .none
  · rcases happly : (Store.apply batch).run.run σ.store with ⟨e | u, S⟩
    · exact .refused hbatch happly
    · exact .taken hbatch happly

theorem isDone_map_done {α : Type} (r : Except Error α) :
    Answer.isDone (r.map fun _ => .done) = r.isOk := by
  cases r with
  | ok a => rfl
  | error e => rfl

theorem isDone_map_flag {α : Type} (r : Except Error α) :
    Answer.isDone ((r.map fun _ => true).map .flag) = r.isOk := by
  cases r with
  | ok a => rfl
  | error e => rfl

/-- A request that would have the store take nothing. -/
theorem Op.effect_of_batch_eq {b : Bool} {S : Store} (hbatch : op.batch σ = [])
    (h : Store.Effect P σ.store [] S) :
    Store.Effect P σ.store (if b then op.batch σ else []) S := by
  rwa [hbatch, ite_self]

/-- A request that would have the store take nothing and leaves it as it is. -/
theorem Op.effect_of_store_eq {b : Bool} {S : Store} (hbatch : op.batch σ = [])
    (hstore : S = σ.store) : Store.Effect P σ.store (if b then op.batch σ else []) S :=
  Op.effect_of_batch_eq hbatch (by rw [hstore]; exact .none)

/-- Work on the store, in the course of which a batch at most is handed over. -/
theorem Op.IsWork.effect {x : StoreM Answer} (h : op.IsWork x) (hop : op.Provides P) :
    Store.Effect P σ.store (if Answer.isDone (x.run.run σ.store).1 then op.batch σ else [])
      (x.run.run σ.store).2 := by
  cases h with
  | apply batch =>
    rw [run_map, isDone_map_done]
    rcases happly : (Store.apply batch).run.run σ.store with ⟨e | u, S⟩
    · exact .refused hop happly
    · exact .taken hop happly
  | lookup t =>
    rw [run_map]
    exact Op.effect_of_batch_eq rfl (.lookup t)
  | isEmpty =>
    rw [run_map]
    exact Op.effect_of_batch_eq rfl .isEmpty
  | graph =>
    rw [run_map]
    exact Op.effect_of_batch_eq rfl .graph
  | properties =>
    rw [run_map]
    exact Op.effect_of_batch_eq rfl .properties

/-- **A request has one of these effects** on the store, whatever becomes of it. -/
theorem Outcome.effect {r : Except Error Answer} {σ' : SharedStore} (h : Outcome σ op r σ')
    (hσ : Collected P σ) (hop : op.Provides P) :
    Store.Effect P σ.store (if Answer.isDone r then op.batch σ else []) σ'.store := by
  cases h with
  | reads x hwrite hoffered => exact Op.effect_of_store_eq rfl (store_entered _ _ _)
  | writes x hfree => exact Op.effect_of_store_eq rfl (store_entered _ _ _)
  | promotes hpromotion => exact Op.effect_of_store_eq rfl hpromotion.store_eq
  | collects hcollects hcollection =>
    have hbatch : op.batch σ = [] := by cases hcollects <;> rfl
    exact Op.effect_of_store_eq hbatch hcollection.store_eq
  | ends hfinishes ht hcommit =>
    have hbatch : op.batch σ = [] := by
      cases hfinishes with
      | commit => simp only [Op.batch, ht, hcommit rfl]
      | abort => rfl
      | discard => rfl
    exact Op.effect_of_store_eq hbatch rfl
  | @commits x t ht hmode =>
    have hbatch : (Op.commit x).batch σ = t.pending := by simp only [Op.batch, ht, hmode]
    rw [hbatch, isDone_map_done]
    -- The transaction has ended when its changes are handed over.
    exact effect_commitChanges (σ := σ.ended x t) (hσ x t ht)
  | applies halone hfree haccepts =>
    rw [isDone_map_flag]
    cases halone with
    | add pattern labels =>
      exact effect_commitChanges (List.forall_mem_singleton.2 (hop σ.store haccepts))
    | remove pattern => exact effect_commitChanges (List.forall_mem_singleton.2 hop)
  | works hwork => exact hwork.effect hop
  | keeps hupkeep =>
    have hbatch : op.batch σ = [] := by cases hupkeep <;> rfl
    exact Op.effect_of_store_eq hbatch rfl
  | closes hs => exact Op.effect_of_batch_eq rfl (.closed hs)
  | reopens hs hattach => exact Op.effect_of_batch_eq rfl (.reopened hs hattach)
  | _ => exact .none

theorem effect_perform (hσ : Collected P σ) (hop : op.Provides P) :
    Store.Effect P σ.store (op.taken σ) (op.perform.run.run σ).2.store :=
  (outcome_perform op σ).effect hσ hop

/-! ### Histories -/

/-- **A property of a store and the changes that it has taken** holds after every history, if each
effect keeps it. -/
theorem effects_run {I : List Change → Store → Prop}
    (hstep : ∀ {cs taken : List Change} {S S' : Store}, I cs S → S.Effect P taken S' →
      I (cs ++ taken) S') :
    ∀ {ops : List Op} {σ : SharedStore} {cs : List Change}, I cs σ.store → Collected P σ →
      (∀ op ∈ ops, op.Provides P) → I (cs ++ taken ops σ) (run ops σ).2.store
  | [], σ, cs, h, _, _ => by
    rw [taken, List.append_nil]
    exact h
  | op :: ops, σ, cs, h, hσ, hops => by
    have hop := hops op List.mem_cons_self
    have hrest := effects_run hstep (hstep h (effect_perform hσ hop)) (hσ.perform_of_provides hop)
      fun op' hop' => hops op' (List.mem_cons_of_mem _ hop')
    rw [run_cons, taken, ← List.append_assoc]
    exact hrest

/-- The changes that a store takes are of the kind that requests provide. -/
theorem forall_taken {ops : List Op} (hσ : Collected P σ) (hops : ∀ op ∈ ops, op.Provides P) :
    ∀ c ∈ taken ops σ, P c := by
  have hall : ∀ c ∈ [] ++ taken ops σ, P c :=
    effects_run (I := fun cs _ => ∀ c ∈ cs, P c)
      (fun hcs heffect => List.forall_mem_append.2 ⟨hcs, heffect.forall_mem⟩)
      (List.forall_mem_nil P) hσ hops
  exact hall

end SharedStore

end Clearance
