import Clearance.Proofs.PersistentStore.Mirror
import Clearance.Proofs.SharedStore.Agreement
import Clearance.Proofs.SharedStore.FailedCommit
import Clearance.Proofs.SharedStore.Pending

/-!
# Persistent stores and stores in memory

The same requests are made to a persistent store that overwrites and to a store in memory:
transactions add labels and end in any order, labels are added alone or as a batch, and triples are
looked up. What the persistent store refuses for want of room is not done in memory either. Then the
answers correspond: additions are accepted or refused alike, and lookups give the same labels, up to
their charsets and repetitions.

## Main definitions

* `Clearance.SharedStore.Op.Additive` — the requests.
* `Clearance.SharedStore.involved` — the nodes that the keys for a history hold.
* `Clearance.SharedStore.sideBySide` — the answers of two stores to the same history.
* `Clearance.SharedStore.Corresponds` — how the answers of the stores correspond.

## Main results

* `Clearance.SharedStore.backends_correspond`.
-/

namespace Clearance

open PersistentStore (MirrorOf Overflows Refuses Follows)

variable {dir : String} {options : StoreOptions} {N : List Node}

/-! ### Changes -/

namespace Change

/-- Whether a change records labels for a pattern whose wildcards stand where they may. -/
def IsLegalAddition (c : Change) : Prop :=
  c = .add c.pattern c.labels ∧ ∃ shape, Shape.ofPattern? c.pattern = some shape

theorem IsLegalAddition.legal {c : Change} (h : c.IsLegalAddition)
    (hnodes : c.pattern.canonical.nodes ⊆ N) (hsmall : LabelList.Small c.labels) : c.Legal N := by
  obtain ⟨hadd, hshape⟩ := h
  rw [hadd]
  exact ⟨hshape, hnodes, hsmall⟩

end Change

/-! ### Stores -/

/-- A persistent store and the store in memory that it mirrors. -/
inductive Store.Mirror (dir : String) (options : StoreOptions) (N : List Node) :
    Store → Store → Prop where
  /-- The one store mirrors the other. -/
  | intro {s : PersistentStore} {m : MemoryStore} (h : MirrorOf dir options N m s) :
    Mirror dir options N (.persistent s) (.memory m)

namespace Store

variable {S T : Store} {batch : List Change}

theorem checkEntry_mirror (h : Mirror dir options N S T) (pattern : Triple) (labels : List Label) :
    S.checkEntry pattern labels = T.checkEntry pattern labels := by
  obtain ⟨h⟩ := h
  rfl

section Mirror

variable (hsuits : options.format.Suits N)

include hsuits

/-- Looking up a triple in both stores. -/
theorem lookup_mirror (h : Mirror dir options N S T) (hany : .any ∈ N) {t : Triple}
    (ht : t.canonical.nodes ⊆ N) :
    Follows options.bufferCapacity ((Store.lookup t).run.run S).1 ((Store.lookup t).run.run T).1 ∧
      Mirror dir options N ((Store.lookup t).run.run S).2 ((Store.lookup t).run.run T).2 := by
  obtain @⟨s, m, h⟩ := h
  obtain ⟨cache, reads, hrun, hcaches⟩ :=
    PersistentStore.run_lookup h.closed_eq
      (PersistentStore.reachable_of_access_eq h.coherent.access_eq) h.coherent.caches t
  rw [run_lookup_persistent, run_lookup_memory, hrun]
  have hcoherent : PersistentStore.Coherent dir options { s with cache, reads } :=
    { h.coherent with caches := hcaches }
  exact ⟨h.answer hsuits hany ht, .intro { h with coherent := hcoherent }⟩

/-- Applying a batch to both stores. -/
theorem apply_mirror (h : Mirror dir options N S T) (hmode : options.mode = .overwrite)
    (hlegal : ∀ c ∈ batch, c.Legal N) :
    (∃ e, (Store.apply batch).run.run S = (.error e, S) ∧
        Refuses options.bufferCapacity N.length e) ∨
      ∃ S' T', (Store.apply batch).run.run S = (.ok (), S') ∧
        (Store.apply batch).run.run T = (.ok (), T') ∧ Mirror dir options N S' T' := by
  obtain @⟨s, m, h⟩ := h
  rw [run_apply_persistent, run_apply_memory]
  rcases h.written hsuits hmode hlegal with ⟨e, hwritten, he⟩ | ⟨s', m', hwritten, happly, h'⟩
  · rw [hwritten]
    exact .inl ⟨e, rfl, he⟩
  · rw [hwritten, happly]
    exact .inr ⟨_, _, rfl, rfl, .intro h'⟩

end Mirror

end Store

/-- Whether an error tells that changes were refused for want of room or of numbers. -/
def Error.isRefusal : Error → Bool
  | .overflow _ _ => true
  | .invalid (.idOutOfRange _) => true
  | _ => false

theorem isRefusal_of_refuses {capacity count : Nat} {e : Error} (h : Refuses capacity count e) :
    e.isRefusal = true := by
  rcases h with ⟨needed, -, rfl⟩ | ⟨id, rfl, -⟩
  · rfl
  · rfl

theorem Label.not_isRefusal_of_validateAfter {e : Error} : ∀ {seen ls : List Label},
    validateAfter seen ls = .error e → e.isRefusal = false
  | seen, [], h => by cases h
  | seen, l :: ls, h => by
    rw [validateAfter] at h
    split at h
    · cases h
      rfl
    · rcases hparse : l.parse with fault | expr
      · rw [hparse] at h
        cases h
        rfl
      · rw [hparse] at h
        exact not_isRefusal_of_validateAfter h

/-- What is wrong with an addition has nothing to do with room. -/
theorem Store.not_isRefusal_of_checkEntry {S : Store} {pattern : Triple} {labels : List Label}
    {e : Error} (h : S.checkEntry pattern labels = .error e) : e.isRefusal = false := by
  have hcheck : S = .empty ∨ S.checkEntry pattern labels = (do
      let _ ← Shape.ofPattern pattern
      Label.validate labels) := by
    cases S with
    | empty => exact .inl rfl
    | memory m => exact .inr rfl
    | persistent s => exact .inr rfl
  rcases hcheck with rfl | hcheck
  · cases h
    rfl
  rw [hcheck, Shape.ofPattern] at h
  rcases hshape : Shape.ofPattern? pattern with _ | shape
  · rw [hshape] at h
    cases h
    rfl
  · rw [hshape] at h
    exact Label.not_isRefusal_of_validateAfter h

namespace SharedStore

variable {σ τ : SharedStore} {batch : List Change}

/-! ### Requests -/

/-- Whether a request is one of those by which labels are added and looked up. A batch that no
transaction has collected may only add labels for legal patterns; nothing is asked of its labels. -/
def Op.Additive : Op → Prop
  | .start _ _ => True
  | .promote _ => True
  | .add _ _ _ => True
  | .commit _ => True
  | .abort _ => True
  | .discard _ => True
  | .addAlone _ _ => True
  | .apply batch => ∀ c ∈ batch, c.IsLegalAddition
  | .lookup _ => True
  | _ => False

/-- The patterns and triples of a request. -/
def Op.triples : Op → List Triple
  | .add _ pattern _ => [pattern]
  | .addAlone pattern _ => [pattern]
  | .apply batch => batch.map Change.pattern
  | .lookup t => [t]
  | _ => []

/-- The lists of labels of a request. -/
def Op.labelLists : Op → List (List Label)
  | .add _ _ labels => [labels]
  | .addAlone _ labels => [labels]
  | .apply batch => batch.map Change.labels
  | _ => []

/-- The nodes that the keys for a history hold: the wildcard, and all nodes of its triples in
canonical form. -/
def involved (ops : List Op) : List Node :=
  .any :: ops.flatMap fun op => op.triples.flatMap fun t => t.canonical.nodes

/-- Whether the answer to a request tells that changes were refused for want of room or of
numbers. -/
def Op.isSkipped : Op → Except Error Answer → Bool
  | .commit _, .error e => e.isRefusal
  | .addAlone _ _, .error e => e.isRefusal
  | .apply _, .error e => e.isRefusal
  | _, _ => false

theorem Op.HandsChanges.isSkipped_eq {op : Op} (hop : op.HandsChanges)
    (answer : Except Error Answer) : op.isSkipped answer = match answer with
      | .error e => e.isRefusal
      | .ok _ => false := by
  cases op with
  | commit x => cases answer <;> rfl
  | addAlone pattern labels => cases answer <;> rfl
  | apply batch => cases answer <;> rfl
  | _ => exact hop.elim

theorem Op.HandsChanges.ne_lookup {op : Op} (hop : op.HandsChanges) (t : Triple) :
    op ≠ .lookup t := by
  rintro rfl
  exact hop

/-- The answers of two stores to the same requests. What the first store refuses for want of room or
of numbers is not asked of the second: it gives no answer, and only ends the transaction. -/
def sideBySide : List Op → SharedStore → SharedStore →
    List (Op × Except Error Answer × Option (Except Error Answer))
  | [], _, _ => []
  | op :: ops, σ, τ =>
    let (answer, σ) := op.perform.run.run σ
    if op.isSkipped answer then
      (op, answer, none) :: sideBySide ops σ (op.withoutChanges.run.run τ).2
    else
      let (other, τ) := op.perform.run.run τ
      (op, answer, some other) :: sideBySide ops σ τ

theorem sideBySide_cons (op : Op) (ops : List Op) (σ τ : SharedStore) :
    sideBySide (op :: ops) σ τ =
      if op.isSkipped (op.perform.run.run σ).1 then
        (op, (op.perform.run.run σ).1, none) ::
          sideBySide ops (op.perform.run.run σ).2 (op.withoutChanges.run.run τ).2
      else
        (op, (op.perform.run.run σ).1, some (op.perform.run.run τ).1) ::
          sideBySide ops (op.perform.run.run σ).2 (op.perform.run.run τ).2 := rfl

/-- How the answers of a persistent store and of a store in memory to a request correspond, if
buffers have a given capacity and there are at most `count` nodes. -/
inductive Corresponds (capacity count : Nat) :
    Op → Except Error Answer → Option (Except Error Answer) → Prop where
  /-- The labels follow from each other. -/
  | lookup {t : Triple} {answer other : Except Error (List Label)}
    (h : Follows capacity answer other) :
    Corresponds capacity count (.lookup t) (answer.map .labels) (some (other.map .labels))
  /-- Changes are refused for want of room, or of numbers. -/
  | skipped {op : Op} {e : Error} (hop : op.HandsChanges) (he : Refuses capacity count e) :
    Corresponds capacity count op (.error e) none
  /-- All other answers are the same. -/
  | same {op : Op} {answer : Except Error Answer} (hop : ∀ t, op ≠ .lookup t) :
    Corresponds capacity count op answer (some answer)

/-! ### Steps -/

/-- A request that can be made to both stores. -/
structure Op.Fits (N : List Node) (op : Op) : Prop where
  /-- It adds labels or looks them up. -/
  additive : op.Additive
  /-- Its nodes are given. -/
  nodes : ∀ t ∈ op.triples, t.canonical.nodes ⊆ N
  /-- The lengths of its labels can be written. -/
  labels : ∀ labels ∈ op.labelLists, LabelList.Small labels

theorem Over.ended {R : Store → Store → Prop} (h : Over R σ τ) (x : String) (t : Txn) :
    Over R (σ.ended x t) (τ.ended x t) where
  store := h.store
  writerActive_eq := by rw [SharedStore.ended, SharedStore.ended, h.writerActive_eq]
  commits_eq := h.commits_eq
  txns_eq := by rw [SharedStore.ended, SharedStore.ended, h.txns_eq]
  events_eq := h.events_eq

/-- An answer that is the same from both stores. -/
theorem corresponds_of_agree {capacity count : Nat} {R : Store → Store → Prop} {op : Op}
    (hop : ∀ t, op ≠ .lookup t) (hagree : Agree (Over R) op.perform op.perform) (h : Over R σ τ) :
    Corresponds capacity count op (op.perform.run.run σ).1 (some (op.perform.run.run τ).1) ∧
      Over R (op.perform.run.run σ).2 (op.perform.run.run τ).2 := by
  obtain ⟨hanswer, hstate⟩ := hagree σ τ h
  rw [← hanswer]
  exact ⟨.same hop, hstate⟩

/-- How work that hands changes to two stores ends: either the first store refuses them for want of
room or of numbers, and is still related to the second one `left` without them; or the answers are
the same. -/
inductive Ends {α : Type} (capacity count : Nat) (R : SharedStore → SharedStore → Prop)
    (r q : Except Error α × SharedStore) (left : SharedStore) : Prop where
  /-- The changes are refused. -/
  | refused {e : Error} (hanswer : r.1 = .error e) (he : Refuses capacity count e) (h : R r.2 left)
  /-- The answers are the same. -/
  | alike (hanswer : r.1 = q.1) (hother : ∀ e, r.1 = .error e → e.isRefusal = false) (h : R r.2 q.2)

/-- Requests that end so have answers that correspond. -/
theorem Ends.map {α : Type} {capacity count : Nat} {R : SharedStore → SharedStore → Prop}
    {r q : Except Error α × SharedStore} {left : SharedStore}
    (hends : Ends capacity count R r q left) {op : Op} (hop : op.HandsChanges) (f : α → Answer) :
    (op.isSkipped (r.1.map f) = true ∧ Corresponds capacity count op (r.1.map f) none ∧
        R r.2 left) ∨
      (op.isSkipped (r.1.map f) = false ∧
        Corresponds capacity count op (r.1.map f) (some (q.1.map f)) ∧ R r.2 q.2) := by
  rw [hop.isSkipped_eq]
  cases hends with
  | refused hanswer he h =>
    rw [hanswer]
    exact .inl ⟨isRefusal_of_refuses he, .skipped hop he, h⟩
  | alike hanswer hother h =>
    refine .inr ⟨?_, hanswer ▸ .same hop.ne_lookup, h⟩
    rcases hr : r.1 with e | a
    · exact hother e hr
    · rfl

section Steps

variable (hsuits : options.format.Suits N) (hmode : options.mode = .overwrite)
  (h : Over (Store.Mirror dir options N) σ τ)

include hsuits hmode h

/-- Applying changes to both stores. -/
theorem commitChanges_mirror (hlegal : ∀ c ∈ batch, c.Legal N) :
    (∃ e, (commitChanges batch).run.run σ = (.error e, σ) ∧
        Refuses options.bufferCapacity N.length e) ∨
      ∃ σ' τ', (commitChanges batch).run.run σ = (.ok (), σ') ∧
        (commitChanges batch).run.run τ = (.ok (), τ') ∧
        Over (Store.Mirror dir options N) σ' τ' := by
  have hcommits : σ.commits + 1 = τ.commits + 1 := by rw [h.commits_eq]
  rw [run_commitChanges, run_commitChanges]
  by_cases hempty : batch.isEmpty = true
  · rw [if_pos hempty, if_pos hempty]
    exact .inr ⟨_, _, rfl, rfl, { h with commits_eq := hcommits }⟩
  rw [if_neg hempty, if_neg hempty]
  rcases Store.apply_mirror hsuits h.store hmode hlegal with
    ⟨e, hrun, he⟩ | ⟨S', T', hrun, hrun', hmirror⟩
  · rw [hrun]
    exact .inl ⟨e, rfl, he⟩
  · rw [hrun, hrun']
    exact .inr ⟨_, _, rfl, rfl, { h with store := hmirror, commits_eq := hcommits }⟩

theorem commit_mirror (hlegal : Collected (Change.Legal N) σ) (x : String) :
    Ends options.bufferCapacity N.length (Over (Store.Mirror dir options N))
      ((commit x).run.run σ) ((commit x).run.run τ) ((abort x).run.run τ).2 := by
  rw [run_commit, run_commit, run_abort, ← h.txns_eq]
  cases htxn : σ.txns[x]? with
  | none => exact .alike rfl (fun e he => by cases he; rfl) h
  | some t =>
    have hended := h.ended x t
    dsimp only
    cases t.mode with
    | read => exact .alike rfl (fun e he => by cases he) hended
    | write =>
      rcases commitChanges_mirror hsuits hmode hended (hlegal x t htxn) with
        ⟨e, hrun, he⟩ | ⟨σ', τ', hrun, hrun', hmirror⟩
      · dsimp only
        rw [hrun]
        exact .refused rfl he hended
      · dsimp only
        rw [hrun, hrun']
        exact .alike rfl (fun e he => by cases he) hmirror

theorem addAlone_mirror {pattern : Triple} {labels : List Label}
    (hnodes : pattern.canonical.nodes ⊆ N) (hsmall : LabelList.Small labels) :
    Ends options.bufferCapacity N.length (Over (Store.Mirror dir options N))
      ((addAlone pattern labels).run.run σ) ((addAlone pattern labels).run.run τ) τ := by
  rw [run_addAlone, run_addAlone, ← h.writerActive_eq, ← Store.checkEntry_mirror h.store]
  by_cases hactive : σ.writerActive = true
  · rw [if_pos hactive, if_pos hactive]
    exact .alike rfl (fun e he => by cases he) h
  rw [if_neg hactive, if_neg hactive]
  cases hcheck : σ.store.checkEntry pattern labels with
  | error e =>
    refine .alike rfl (fun e' he' => ?_) h
    cases he'
    exact Store.not_isRefusal_of_checkEntry hcheck
  | ok a =>
    have hlegal : ∀ c ∈ [Change.add pattern labels], c.Legal N := by
      intro c hc
      obtain rfl := List.mem_singleton.1 hc
      exact ⟨Store.exists_shape_of_checkEntry hcheck, hnodes, hsmall⟩
    rcases commitChanges_mirror hsuits hmode h hlegal with
      ⟨e, hrun, he⟩ | ⟨σ', τ', hrun, hrun', hmirror⟩
    · dsimp only
      rw [hrun]
      exact .refused rfl he h
    · dsimp only
      rw [hrun, hrun']
      exact .alike rfl (fun e he => by cases he) hmirror

theorem onStore_apply_mirror (hlegal : ∀ c ∈ batch, c.Legal N) :
    Ends options.bufferCapacity N.length (Over (Store.Mirror dir options N))
      ((onStore (Store.apply batch)).run.run σ) ((onStore (Store.apply batch)).run.run τ) τ := by
  rw [run_onStore, run_onStore]
  rcases Store.apply_mirror hsuits h.store hmode hlegal with
    ⟨e, hrun, he⟩ | ⟨S', T', hrun, hrun', hmirror⟩
  · rw [hrun]
    exact .refused rfl he h
  · rw [hrun, hrun']
    exact .alike rfl (fun e he => by cases he) { h with store := hmirror }

/-- **One request to both stores** has answers that correspond, and the stores still mirror each
other after it. -/
theorem perform_mirror {op : Op} (hop : op.Fits N) (hany : .any ∈ N)
    (hlegal : Collected (Change.Legal N) σ) :
    let answer := (op.perform.run.run σ).1
    (op.isSkipped answer = true ∧
        Corresponds options.bufferCapacity N.length op answer none ∧
        Over (Store.Mirror dir options N) (op.perform.run.run σ).2
          (op.withoutChanges.run.run τ).2) ∨
      (op.isSkipped answer = false ∧
        Corresponds options.bufferCapacity N.length op answer (some (op.perform.run.run τ).1) ∧
        Over (Store.Mirror dir options N) (op.perform.run.run σ).2 (op.perform.run.run τ).2) := by
  have hadd (x : String) (pattern : Triple) (labels : List Label) :
      Agree (Over (Store.Mirror dir options N)) (add x pattern labels) (add x pattern labels) :=
    agree_add (fun _ _ pattern labels hST => Store.checkEntry_mirror hST pattern labels) x pattern
      labels
  cases op with
  | start x type =>
    exact .inr ⟨rfl, corresponds_of_agree (by simp) ((agree_start x type).map _) h⟩
  | promote x =>
    exact .inr ⟨rfl, corresponds_of_agree (by simp) ((agree_promote x).map _) h⟩
  | add x pattern labels =>
    exact .inr ⟨rfl, corresponds_of_agree (by simp) ((hadd x pattern labels).map _) h⟩
  | abort x => exact .inr ⟨rfl, corresponds_of_agree (by simp) ((agree_abort x).map _) h⟩
  | discard x =>
    exact .inr ⟨rfl, corresponds_of_agree (by simp) ((agree_discard x).map _) h⟩
  | lookup t =>
    obtain ⟨hfollows, hmirror⟩ :=
      Store.lookup_mirror hsuits h.store hany (hop.nodes t List.mem_cons_self)
    rw [Op.perform, run_map, run_map]
    exact .inr ⟨rfl, .lookup hfollows, { h with store := hmirror }⟩
  | commit x =>
    have hhands : (Op.commit x).HandsChanges := trivial
    rw [Op.perform, run_map, run_map]
    exact (commit_mirror hsuits hmode h hlegal x).map hhands _
  | addAlone pattern labels =>
    have hhands : (Op.addAlone pattern labels).HandsChanges := trivial
    have hnodes := hop.nodes pattern List.mem_cons_self
    have hsmall := hop.labels labels List.mem_cons_self
    rw [Op.perform, run_map, run_map]
    exact (addAlone_mirror hsuits hmode h hnodes hsmall).map hhands _
  | apply batch =>
    have hhands : (Op.apply batch).HandsChanges := trivial
    have hbatch : ∀ c ∈ batch, c.Legal N := fun c hc => (hop.additive c hc).legal
      (hop.nodes _ (List.mem_map_of_mem hc)) (hop.labels _ (List.mem_map_of_mem hc))
    rw [Op.perform, run_map, run_map]
    exact (onStore_apply_mirror hsuits hmode h hbatch).map hhands _
  | _ => exact hop.additive.elim

end Steps

/-- A request that can be made to both stores adds nothing but legal changes to transactions. -/
theorem Op.Fits.collected {op : Op} (hop : op.Fits N) (hσ : Collected (Change.Legal N) σ) :
    Collected (Change.Legal N) (op.perform.run.run σ).2 := by
  refine hσ.outcome (outcome_perform op σ) fun x c hcollects haccepts => ?_
  cases hcollects with
  | add pattern labels =>
    exact ⟨Store.exists_shape_of_checkEntry haccepts, hop.nodes pattern List.mem_cons_self,
      hop.labels labels List.mem_cons_self⟩
  | remove pattern => exact hop.additive.elim

/-! ### Histories -/

/-- The answers to a history of requests that can be made to both stores correspond. -/
theorem sideBySide_corresponds (hsuits : options.format.Suits N) (hmode : options.mode = .overwrite)
    (hany : .any ∈ N) : ∀ {ops : List Op} {σ τ : SharedStore}, (∀ op ∈ ops, op.Fits N) →
      Collected (Change.Legal N) σ → Over (Store.Mirror dir options N) σ τ →
      ∀ op answer other?, (op, answer, other?) ∈ sideBySide ops σ τ →
        Corresponds options.bufferCapacity N.length op answer other?
  | [], σ, τ, _, _, _, op, answer, other?, hmem => by cases hmem
  | first :: ops, σ, τ, hops, hσ, h, op, answer, other?, hmem => by
    have hfirst := hops first List.mem_cons_self
    have hrest := fun op hop => hops op (List.mem_cons_of_mem first hop)
    have hσ' := hfirst.collected hσ
    rw [sideBySide_cons] at hmem
    rcases perform_mirror hsuits hmode h hfirst hany hσ with
      ⟨hskipped, hanswer, hover⟩ | ⟨hskipped, hanswer, hover⟩
    · rw [if_pos hskipped] at hmem
      rcases List.mem_cons.1 hmem with heq | hmem
      · cases heq
        exact hanswer
      · exact sideBySide_corresponds hsuits hmode hany hrest hσ' hover op answer other? hmem
    · rw [if_neg (Bool.eq_false_iff.1 hskipped)] at hmem
      rcases List.mem_cons.1 hmem with heq | hmem
      · cases heq
        exact hanswer
      · exact sideBySide_corresponds hsuits hmode hany hrest hσ' hover op answer other? hmem

/-- **Both kinds of stores give the same labels.** A new persistent store that overwrites, with any
format, buffers and cache, and a new store in memory are given the same history of transactions that
add labels, additions that are made alone, batches of additions, and lookups. Every request has the
same answer from both, up to two differences. A commit, an addition or a batch may be refused by the
persistent store for want of room in its buffers — or of numbers, when there are more nodes than
words — and is then left out in memory. A lookup may fail for want of room; otherwise both stores
refuse it for the same reason, or the labels of the persistent store are those of the store in
memory as UTF-8, each at its first place only. It is assumed that the lengths of labels and texts
fit their fields, and that the digests of the nodes do not collide. -/
theorem backends_correspond (hmode : options.mode = .overwrite) {ops : List Op}
    (hops : ∀ op ∈ ops, op.Additive)
    (hlabels : ∀ op ∈ ops, ∀ labels ∈ op.labelLists, LabelList.Small labels)
    (hsuits : options.format.Suits (involved ops)) :
    ∃ s db, (PersistentStore.attach dir {} options).run.run {} = (.ok s, db) ∧
      ∀ op answer other?,
        (op, answer, other?) ∈ sideBySide ops { store := .persistent s } { store := .memory {} } →
          Corresponds options.bufferCapacity (involved ops).length op answer other? := by
  have hfits : ∀ op ∈ ops, op.Fits (involved ops) := by
    intro op hop
    refine ⟨hops op hop, fun t ht n hn => ?_, hlabels op hop⟩
    exact List.mem_cons_of_mem _ <| List.mem_flatMap.2 ⟨op, hop, List.mem_flatMap.2 ⟨t, ht, hn⟩⟩
  have hcollected : Collected (Change.Legal (involved ops))
      { store := .persistent (PersistentStore.fresh dir options) } := collected_of_no_txns rfl
  have hstart : Over (Store.Mirror dir options (involved ops))
      { store := .persistent (PersistentStore.fresh dir options) } { store := .memory {} } :=
    ⟨.intro (PersistentStore.mirrorOf_fresh dir options _), rfl, rfl, rfl, rfl⟩
  exact ⟨_, _, PersistentStore.run_attach_new dir options,
    sideBySide_corresponds hsuits hmode List.mem_cons_self hfits hcollected hstart⟩

/-- A history with an addition that is not legal, one that small buffers have no room for, and a
lookup of a number that is not written in canonical form. -/
def additions : List Op :=
  let number : Node := .literal ⟨"01", .datatype "http://www.w3.org/2001/XMLSchema#integer"⟩
  [.start "x" .write, .add "x" ⟨.uri "s", .uri "p", .any⟩ [.allow],
    .add "x" ⟨.any, .any, .uri "o"⟩ [.allow], .commit "x",
    .addAlone ⟨.uri "s", .uri "p", number⟩ [.ofText "role = \"admin\""],
    .lookup ⟨.uri "s", .uri "p", number⟩]

/-- Digests as keys, and buffers that are soon full. -/
def hashed : StoreOptions := { format := .byHash .xx32, bufferCapacity := 16 }

/-- The label that was refused for want of room is left out in memory, and the lookup finds the
labels of the pattern in both stores. -/
theorem backends_correspond_hashed :
    let number : Node := .literal ⟨"01", .datatype "http://www.w3.org/2001/XMLSchema#integer"⟩
    ∃ s db, (PersistentStore.attach "labels" {} hashed).run.run {} = (.ok s, db) ∧
      let calls := sideBySide additions { store := .persistent s } { store := .memory {} }
      (∀ op answer other?, (op, answer, other?) ∈ calls →
          Corresponds 16 (involved additions).length op answer other?) ∧
        calls.map (fun call => call.2.2.isSome) = [true, true, true, true, false, true] ∧
        (.lookup ⟨.uri "s", .uri "p", number⟩, .ok (.labels [.allow]),
          some (.ok (.labels [.allow]))) ∈ calls := by
  intro number
  have hops : ∀ op ∈ additions, op.Additive := by simp [additions, Op.Additive]
  have hlabels : ∀ op ∈ additions, ∀ labels ∈ op.labelLists, LabelList.Small labels := by
    simp only [LabelList.Small]
    decide +kernel
  have hsuits : hashed.format.Suits (involved additions) := by
    refine ⟨(fun h => by cases h), ?_⟩
    rintro algorithm heq
    cases heq
    decide +kernel
  obtain ⟨s, db, hattach, hcalls⟩ :=
    @backends_correspond "labels" hashed rfl additions hops hlabels hsuits
  refine ⟨s, db, hattach, hcalls, ?_⟩
  obtain rfl : s = PersistentStore.fresh "labels" hashed := by
    rw [PersistentStore.run_attach_new] at hattach
    cases hattach
    rfl
  refine ⟨by decide +kernel, ?_⟩
  have hread :
      (sideBySide additions { store := .persistent (PersistentStore.fresh "labels" hashed) }
      { store := .memory {} }).getLast?.map
        (fun call => (call.1, call.2.1.toOption, call.2.2.bind Except.toOption))
      = some (.lookup ⟨.uri "s", .uri "p", number⟩, some (.labels [.allow]),
          some (.labels [.allow])) := by decide +kernel
  obtain ⟨⟨op, answer, other?⟩, hlast, hparts⟩ := Option.map_eq_some_iff.1 hread
  simp only [Prod.mk.injEq] at hparts
  obtain ⟨rfl, hanswer, hother⟩ := hparts
  obtain ⟨other, rfl, hother⟩ := Option.bind_eq_some_iff.1 hother
  rw [eq_ok_of_toOption hanswer, eq_ok_of_toOption hother] at hlast
  exact List.mem_of_getLast? hlast

end SharedStore

end Clearance
