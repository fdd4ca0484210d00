import Clearance.Proofs.MemoryStore.Contents
import Clearance.Proofs.SharedStore.Effects
import Clearance.Proofs.SharedStore.Replay
import Clearance.Proofs.SharedStore.Slot

/-!
# The protocol of transactions

Any number of transactions on one store begin, become the writer, collect changes, look up triples
and end, in any order, and changes are made alone between them. A *ledger* follows the requests from
outside: from the answers alone it tells which transactions have begun and which changes were
accepted for them, and which changes have been committed. The store is always what its ledger says:
the transactions are those of the ledger, with the changes that the ledger has for them; and what is
recorded is what the committed changes give, one after the other, so that every lookup is answered
from committed changes only.

## Main definitions

* `Clearance.SharedStore.Call`, `Clearance.SharedStore.calls` — requests with their answers.
* `Clearance.SharedStore.Ledger`, `Clearance.SharedStore.ledger` — what the calls of a history tell.
* `Clearance.SharedStore.Ledger.Describes` — stores that are what a ledger says.

## Main results

* `Clearance.SharedStore.Ledger.Describes.outcome`, `Clearance.SharedStore.describes_ledger` — one
  request, and histories.
* `Clearance.SharedStore.transactions_keep_the_protocol`.
-/

namespace Clearance

/-! ### Changes for stores -/

/-- The changes that a store takes have a shape. -/
theorem Store.Accepts.hasShape {S : Store} {c : Change} (h : S.Accepts c) : c.HasShape := by
  cases c with
  | add pattern labels => exact exists_shape_of_checkEntry h
  | remove pattern => trivial

/-- A store that serves takes such a batch, or is as it was. -/
theorem Store.Replica.apply_cases {S R : Store} (h : Replica S R) {batch : List Change}
    (hbatch : ∀ c ∈ batch, c.HasShape) :
    (∃ e, (Store.apply batch).run.run S = (.error e, S)) ∨
      ∃ S', (Store.apply batch).run.run S = (.ok (), S') := by
  cases h with
  | memory m =>
    obtain ⟨m', hm'⟩ := m.exists_apply_eq hbatch
    rw [run_apply_memory, hm']
    exact .inr ⟨_, rfl⟩
  | empty =>
    cases batch with
    | nil => exact .inr ⟨.empty, rfl⟩
    | cons c cs => exact .inl ⟨_, rfl⟩
  | @persistent s r hs hr h =>
    rw [run_apply_persistent]
    cases s.written batch with
    | ok s' => exact .inr ⟨_, rfl⟩
    | error e => exact .inl ⟨e, rfl⟩

namespace SharedStore

variable {σ σ' : SharedStore} {S R : Store} {x y : String} {t : Txn} {c : Change} {op : Op}

/-! ### Requests -/

theorem Op.NeedsSlot.not_finishes (hop : op.NeedsSlot) (x : String) : ¬ op.Finishes x := by
  rintro ⟨⟩ <;> exact hop

theorem Op.ChangesAlone.not_finishes (hop : op.ChangesAlone c) (x : String) : ¬ op.Finishes x := by
  rintro ⟨⟩ <;> cases hop

/-! ### Calls -/

/-- The transaction that a request names. -/
def Op.name? : Op → Option String
  | .start x _ => some x
  | .promote x => some x
  | .add x _ _ => some x
  | .remove x _ => some x
  | .commit x => some x
  | .abort x => some x
  | .discard x => some x
  | _ => none

theorem Op.Finishes.name?_eq (hop : op.Finishes x) : op.name? = some x := by
  cases hop <;> rfl

/-- A request with its answer. -/
structure Call where
  /-- The request. -/
  op : Op
  /-- The transaction that it names, as it was when the request was made. -/
  found : Option Txn
  /-- The answer. -/
  answer : Except Error Answer

namespace Call

/-- Whether what was asked for was done. -/
def granted (call : Call) : Bool :=
  match call.answer with
  | .ok (.flag b) => b
  | .ok _ => true
  | .error _ => false

/-- Whether the request was made by a writer. -/
def byWriter (call : Call) : Bool := call.found.any (·.mode = .write)

end Call

/-- The calls of a history. -/
def calls : List Op → SharedStore → List Call
  | [], _ => []
  | op :: ops, σ =>
    let (answer, σ') := op.perform.run.run σ
    { op, found := op.name?.bind fun x => σ.txns[x]?, answer } :: calls ops σ'

/-! ### Ledgers -/

/-- What can be told of a history from its calls. -/
structure Ledger where
  /-- The transactions that have begun and have not ended, by name: their types and the changes that
  were accepted for them. -/
  txns : Std.ExtTreeMap String (TxnType × List Change) := ∅
  /-- The changes of the commits, in order. -/
  committed : List Change := []
  /-- The number of commits of writers. -/
  commits : Nat := 0

namespace Ledger

/-- A change was accepted for a transaction. -/
def accept (l : Ledger) (x : String) (c : Change) : Ledger :=
  match l.txns[x]? with
  | some (type, changes) => { l with txns := l.txns.insert x (type, changes ++ [c]) }
  | none => l

/-- A transaction has ended. -/
def close (l : Ledger) (x : String) : Ledger := { l with txns := l.txns.erase x }

/-- The changes that were accepted for a transaction. -/
def changesOf (l : Ledger) (x : String) : List Change := (l.txns[x]?.map Prod.snd).getD []

/-- Changes were committed, by a writer or by a reader. -/
def record (l : Ledger) (changes : List Change) (byWriter : Bool) : Ledger :=
  { l with
    committed := l.committed ++ changes
    commits := if byWriter then l.commits + 1 else l.commits }

/-- The ledger after one more call. -/
def note (l : Ledger) (call : Call) : Ledger :=
  match call.op with
  | .start x type => if call.granted then { l with txns := l.txns.insert x (type, []) } else l
  | .add x pattern labels => if call.granted then l.accept x (.add pattern labels) else l
  | .remove x pattern => if call.granted then l.accept x (.remove pattern) else l
  | .commit x => (if call.granted then l.record (l.changesOf x) call.byWriter else l).close x
  | .abort x => l.close x
  | .discard x => l.close x
  | .addAlone pattern labels => if call.granted then l.record [.add pattern labels] true else l
  | .removeAlone pattern => if call.granted then l.record [.remove pattern] true else l
  | _ => l

/-- What is not granted is not noted, unless it ends a transaction. -/
theorem note_of_not_granted {l : Ledger} {call : Call} (hgranted : call.granted = false)
    (hkeeps : ∀ x, ¬ call.op.Finishes x) : l.note call = l := by
  obtain ⟨op, found, answer⟩ := call
  cases op with
  | commit x => exact absurd .commit (hkeeps x)
  | abort x => exact absurd .abort (hkeeps x)
  | discard x => exact absurd .discard (hkeeps x)
  | _ => simp [note, hgranted]

theorem note_commit (l : Ledger) (x : String) (found : Option Txn) (r : Except Error Unit) :
    l.note { op := .commit x, found, answer := r.map fun _ => .done }
      = (if r.isOk then l.record (l.changesOf x) (found.any (·.mode = .write)) else l).close x := by
  cases r with
  | ok a => rfl
  | error e => rfl

/-- Whether the transactions on a store are those of a ledger. -/
def Tracks (l : Ledger) (σ : SharedStore) : Prop :=
  ∀ x : String, l.txns[x]? = σ.txns[x]?.map fun t => (t.type, t.pending)

/-- Whether a store is what a ledger says that began when the store was a given one. -/
structure Describes (S : Store) (l : Ledger) (σ : SharedStore) : Prop where
  /-- The transactions are those of the ledger. -/
  tracks : l.Tracks σ
  /-- The count of commits is right. -/
  commits_eq : l.commits = σ.commits
  /-- What is recorded is what the committed changes give. -/
  replica : ∃ R, S.replay l.committed = some R ∧ Store.Replica σ.store R

variable {l l' : Ledger}

/-! ### Transactions -/

theorem Tracks.ended (h : l.Tracks σ) (x : String) (t : Txn) :
    (l.close x).Tracks (σ.ended x t) := by
  intro y
  rw [getElem?_ended, close, Std.ExtTreeMap.getElem?_erase]
  by_cases hxy : x = y
  · simp [hxy]
  · simp [hxy, h y]

/-- What had no name cannot end. -/
theorem Tracks.close (h : l.Tracks σ) (hx : σ.txns[x]? = none) : (l.close x).Tracks σ := by
  intro y
  rw [Ledger.close, Std.ExtTreeMap.getElem?_erase]
  by_cases hxy : x = y
  · simp [← hxy, hx]
  · simp [hxy, h y]

theorem Tracks.entered (h : l.Tracks σ) (x : String) (t : Txn) :
    { l with txns := l.txns.insert x (t.type, t.pending) }.Tracks (σ.entered x t) := by
  intro y
  rw [getElem?_entered, Std.ExtTreeMap.getElem?_insert]
  by_cases hxy : x = y
  · simp [hxy]
  · simp [hxy, h y]

theorem Tracks.promotion {r : Except Error Bool} (h : l.Tracks σ)
    (hpromotion : Promotion x σ r σ') : l.Tracks σ' := by
  cases hpromotion with
  | turns ht hmode htype hfree =>
    intro y
    rw [getElem?_promoted, h y]
    split
    · next hxy => rw [← hxy, ht]; rfl
    · rfl
  | _ => exact h

theorem Tracks.collected (h : l.Tracks σ) (ht : σ.txns[x]? = some t) (c : Change) :
    (l.accept x c).Tracks (σ.collected x t c) := by
  intro y
  have hx := h x
  rw [ht] at hx
  rw [getElem?_collected, accept, hx]
  simp only [Option.map_some, Std.ExtTreeMap.getElem?_insert, Std.LawfulEqCmp.compare_eq_iff_eq]
  split
  · rfl
  · exact h y

theorem changesOf_eq (h : l.Tracks σ) (ht : σ.txns[x]? = some t) : l.changesOf x = t.pending := by
  rw [changesOf, h x, ht]
  rfl

end Ledger

/-! ### Committing -/

/-- Changes of this kind are committed and replayed, or nothing has changed. -/
theorem commitChanges_cases (h : Store.Replica σ.store R) {batch : List Change}
    (hbatch : ∀ c ∈ batch, c.HasShape) :
    (∃ e, (commitChanges batch).run.run σ = (.error e, σ)) ∨
      ∃ S' R', (commitChanges batch).run.run σ
          = (.ok (), { σ with store := S', commits := σ.commits + 1 }) ∧
        R.replay batch = some R' ∧ Store.Replica S' R' := by
  rw [run_commitChanges]
  by_cases hempty : batch.isEmpty
  · rw [if_pos hempty]
    obtain rfl := List.isEmpty_iff.1 hempty
    exact .inr ⟨_, R, rfl, rfl, h⟩
  rw [if_neg hempty]
  rcases h.apply_cases hbatch with ⟨e, hrun⟩ | ⟨S', hrun⟩
  · rw [hrun]
    exact .inl ⟨e, rfl⟩
  · obtain ⟨R', hreplay, hreplica⟩ := h.replay_batch hrun
    rw [hrun]
    exact .inr ⟨S', R', rfl, hreplay, hreplica⟩

namespace Ledger

variable {l l' : Ledger}

namespace Describes

variable (h : l.Describes S σ)

include h

/-- What is left of a store when only its transactions have changed. -/
theorem congr (htracks : l'.Tracks σ') (hcommitted : l'.committed = l.committed)
    (hcommits : l'.commits = l.commits) (hstore : σ'.store = σ.store)
    (hcount : σ'.commits = σ.commits) : l'.Describes S σ' where
  tracks := htracks
  commits_eq := by rw [hcommits, hcount, h.commits_eq]
  replica := by
    rw [hcommitted, hstore]
    exact h.replica

theorem entered (x : String) (t : Txn) :
    { l with txns := l.txns.insert x (t.type, t.pending) }.Describes S (σ.entered x t) := by
  refine h.congr (h.tracks.entered x t) rfl rfl (store_entered σ x t) ?_
  rw [SharedStore.entered, vacated]
  split <;> rfl

theorem ended (x : String) (t : Txn) : (l.close x).Describes S (σ.ended x t) :=
  h.congr (h.tracks.ended x t) rfl rfl rfl rfl

theorem close (hx : σ.txns[x]? = none) : (l.close x).Describes S σ :=
  h.congr (h.tracks.close hx) rfl rfl rfl rfl

theorem promotion {r : Except Error Bool} (hpromotion : Promotion x σ r σ') : l.Describes S σ' := by
  have htracks := h.tracks.promotion hpromotion
  cases hpromotion with
  | turns ht hmode htype hfree => exact h.congr htracks rfl rfl rfl rfl
  | _ => exact h

theorem accept (ht : σ.txns[x]? = some t) (c : Change) :
    (l.accept x c).Describes S (σ.collected x t c) := by
  have htracks := h.tracks.collected ht c
  have hx := h.tracks x
  rw [ht] at hx
  rw [Ledger.accept, hx] at htracks ⊢
  exact h.congr htracks rfl rfl rfl rfl

/-- A transaction collects a change, or does not. -/
theorem collection {r : Except Error Unit} (hcollection : Collection x c σ r σ') :
    (if r.isOk then l.accept x c else l).Describes S σ' := by
  cases hcollection with
  | notWriter => exact h
  | refused hpromotion =>
    have hwriter := h.promotion hpromotion
    exact hwriter.congr hwriter.tracks rfl rfl rfl rfl
  | accepted hpromotion ht hmode => exact (h.promotion hpromotion).accept ht c

/-- A writer commits changes, or does not. -/
theorem commitChanges {batch : List Change} (hbatch : ∀ c ∈ batch, c.HasShape) :
    (if ((SharedStore.commitChanges batch).run.run σ).1.isOk then l.record batch true
      else l).Describes S ((SharedStore.commitChanges batch).run.run σ).2 := by
  obtain ⟨R, hreplay, hreplica⟩ := h.replica
  rcases commitChanges_cases hreplica hbatch with ⟨e, hrun⟩ | ⟨S', R', hrun, hreplay', hreplica'⟩
  · rw [hrun]
    exact h
  · rw [hrun]
    refine ⟨h.tracks, congrArg (· + 1) h.commits_eq, R', ?_, hreplica'⟩
    show S.replay (l.committed ++ batch) = some R'
    rw [Store.replay_append, hreplay]
    exact hreplay'

/-- A reader is committed, which has collected nothing. -/
theorem commit_reader (ht : σ.txns[x]? = some t) (hpending : t.pending = []) :
    ((l.record (l.changesOf x) false).close x).Describes S (σ.ended x t) := by
  have hended := h.ended x t
  rw [changesOf_eq h.tracks ht, hpending]
  exact hended.congr hended.tracks (List.append_nil _) rfl rfl rfl

/-- A writer is committed, or only ends. -/
theorem commit_writer (ht : σ.txns[x]? = some t) (hshapes : ∀ c ∈ t.pending, c.HasShape) :
    ((if ((SharedStore.commitChanges t.pending).run.run (σ.ended x t)).1.isOk then
        l.record (l.changesOf x) true else l).close x).Describes S
      ((SharedStore.commitChanges t.pending).run.run (σ.ended x t)).2 := by
  have hcommitted := (h.ended x t).commitChanges hshapes
  rw [changesOf_eq h.tracks ht]
  split
  · next hok => rwa [if_pos hok] at hcommitted
  · next hfail => rwa [if_neg hfail] at hcommitted

/-- A transaction ends, and its changes are not applied. -/
theorem finish (horderly : σ.Orderly) (hop : op.Finishes x) (ht : σ.txns[x]? = some t)
    (hcommit : op = .commit x → t.mode = .read) :
    (l.note { op, found := some t, answer := .ok .done }).Describes S (σ.ended x t) := by
  cases hop with
  | commit =>
    have hmode := hcommit rfl
    have hreader := h.commit_reader ht ((horderly.sound ht).pending_eq hmode)
    have hnote := l.note_commit x (some t) (.ok ())
    rw [Option.any_some, hmode] at hnote
    exact hnote ▸ hreader
  | abort => exact h.ended x t
  | discard => exact h.ended x t

/-- **One request:** the store after it is what the ledger says after the call, whatever becomes of
it. -/
theorem outcome {r : Except Error Answer} (houtcome : Outcome σ op r σ') (horderly : σ.Orderly)
    (hshapes : Collected Change.HasShape σ) (hop : op.IsTransactional) :
    (l.note { op, found := op.name?.bind fun x => σ.txns[x]?, answer := r }).Describes S σ' := by
  cases houtcome with
  | waits hneeds hactive =>
    rw [note_of_not_granted rfl hneeds.not_finishes]
    exact h
  | notOffered x => exact h
  | @reads x type hwrite hoffered => exact h.entered x { type, mode := .read }
  | writes x hfree =>
    have hslot : l.Describes S { σ with writerActive := true } := h.congr h.tracks rfl rfl rfl rfl
    exact hslot.entered x { type := .write, mode := .write }
  | promotes hpromotion => exact h.promotion hpromotion
  | collects hcollects hcollection =>
    have hdescribes := h.collection hcollection
    cases hcollects with
    | add pattern labels => rwa [← isDone_map_done] at hdescribes
    | remove pattern => rwa [← isDone_map_done] at hdescribes
  | finished hfinishes hx =>
    cases hfinishes with
    | commit => exact h.close hx
    | abort => exact h.close hx
    | discard => exact h.close hx
  | @ends x op t events hfinishes ht hcommit =>
    have hended := h.finish horderly hfinishes ht hcommit
    rw [hfinishes.name?_eq, Option.bind_some, ht]
    exact hended.congr hended.tracks rfl rfl rfl rfl
  | @commits x t ht hmode =>
    have hcommitted := h.commit_writer ht (hshapes x t ht)
    rw [note_commit]
    simpa [Op.name?, ht, hmode] using hcommitted
  | refuses halone hfree hrefuses =>
    rw [note_of_not_granted rfl halone.not_finishes]
    exact h.congr h.tracks rfl rfl rfl rfl
  | applies halone hfree haccepts =>
    have hcommitted := h.commitChanges (List.forall_mem_singleton.2 haccepts.hasShape)
    cases halone with
    | add pattern labels => rwa [← isDone_map_flag] at hcommitted
    | remove pattern => rwa [← isDone_map_flag] at hcommitted
  | works hwork =>
    cases hwork with
    | lookup t =>
      obtain ⟨R, hreplay, hreplica⟩ := h.replica
      rw [run_map]
      exact ⟨h.tracks, h.commits_eq, R, hreplay, hreplica.lookup t⟩
    | _ => exact hop.elim
  | keeps hupkeep => cases hupkeep <;> exact hop.elim
  | closes hs => exact hop.elim
  | reopens hs hattach => exact hop.elim

end Describes

/-- **A history:** the store after it is what the ledger says after its calls. -/
theorem describes_run : ∀ {ops : List Op} {l : Ledger} {σ : SharedStore},
    (∀ op ∈ ops, op.IsTransactional) → σ.Orderly → Collected Change.HasShape σ → l.Describes S σ →
      (run ops σ).2.Orderly ∧ ((calls ops σ).foldl note l).Describes S (run ops σ).2
  | [], l, σ, _, horderly, _, h => ⟨horderly, h⟩
  | op :: ops, l, σ, hops, horderly, hshapes, h => by
    have hop := hops op List.mem_cons_self
    have houtcome := outcome_perform op σ
    have hshapes' := hshapes.outcome houtcome fun _ _ _ haccepts => haccepts.hasShape
    have hrest : ∀ op' ∈ ops, op'.IsTransactional :=
      fun op' hop' => hops op' (List.mem_cons_of_mem op hop')
    have hdescribes := describes_run hrest (horderly.outcome houtcome) hshapes'
      (h.outcome houtcome horderly hshapes hop)
    exact hdescribes

end Ledger

/-! ### Histories -/

/-- What the calls of a history tell. -/
def ledger (ops : List Op) (σ : SharedStore) : Ledger := (calls ops σ).foldl Ledger.note {}

/-- **A store is what its ledger says**, after any history. -/
theorem describes_ledger (hS : Store.Replica S S) {ops : List Op}
    (hops : ∀ op ∈ ops, op.IsTransactional) :
    (run ops { store := S }).2.Orderly ∧
      (ledger ops { store := S }).Describes S (run ops { store := S }).2 := by
  have hstart : Ledger.Describes S {} { store := S } := by
    refine ⟨fun x => ?_, rfl, S, rfl, hS⟩
    rw [Std.ExtTreeMap.getElem?_empty, Std.ExtTreeMap.getElem?_empty, Option.map_none]
  exact Ledger.describes_run hops (orderly_of_no_txns rfl rfl) (collected_of_no_txns rfl) hstart

theorem Op.NeedsSlot.perform_eq (hop : op.NeedsSlot) (hactive : σ.writerActive = true) :
    op.perform.run.run σ = (.ok (.flag false), σ) := by
  cases op with
  | start x type =>
    cases type with
    | write =>
      rw [Op.perform, run_map, run_start_writer, if_pos hactive]
      rfl
    | _ => exact hop.elim
  | addAlone pattern labels =>
    rw [Op.perform, run_map, run_addAlone, if_pos hactive]
    rfl
  | removeAlone pattern =>
    rw [Op.perform, run_map, run_removeAlone, if_pos hactive]
    rfl
  | _ => exact hop.elim

/-- **The protocol of transactions.** A store in memory, or a persistent store that was opened on
any database, is given any history of transactions, changes that are made alone, and lookups.
Afterwards, and so at any time, the slot is taken exactly while a transaction is the writer, and
there is one writer at most. Transactions that only read are no writers, none has the type that no
store offers, and none can begin with it; the next request makes a transaction the writer only if
the slot is free, and a writer that would begin, or a change that is made alone, is turned away
while it is taken. The transactions are those that have begun and not ended, with the changes that
were accepted for them, and the commits that were counted are those that writers made. What is
recorded is what the committed changes give that were accepted, applied one after the other in the
order of the commits; and every lookup is answered from that. -/
theorem transactions_keep_the_protocol (hS : S.Opened) {ops : List Op}
    (hops : ∀ op ∈ ops, op.IsTransactional) :
    let σ := (run ops { store := S }).2
    let told := ledger ops { store := S }
    (σ.writerActive = true ↔ ∃ x, σ.IsWriter x) ∧ (∀ x y, σ.IsWriter x → σ.IsWriter y → x = y) ∧
      (∀ (x : String) (t : Txn), σ.txns[x]? = some t → t.IsSound) ∧
      (∀ x, (start x .readCommittedPromote).run.run σ
        = (.error (.unsupported .readCommittedPromote), σ)) ∧
      (∀ op : Op, op.IsTransactional → ∀ x, (op.perform.run.run σ).2.IsWriter x →
        σ.IsWriter x ∨ σ.writerActive = false) ∧
      (∀ op : Op, op.NeedsSlot → σ.writerActive = true →
        op.perform.run.run σ = (.ok (.flag false), σ)) ∧
      told.Tracks σ ∧ σ.commits = told.commits ∧
      ∃ R, S.replay told.committed = some R ∧ σ.store.restarted = R.restarted ∧
        ∀ t, ((lookup t).run.run σ).1 = ((Store.lookup t).run.run R).1 := by
  obtain ⟨horderly, hdescribes⟩ := describes_ledger hS.replica hops
  obtain ⟨R, hreplay, hreplica⟩ := hdescribes.replica
  refine ⟨horderly.slot, fun x y => horderly.unique, fun x t => horderly.sound, fun x => rfl,
    fun op _ x => IsWriter.of_outcome (outcome_perform op _), fun op hop => hop.perform_eq,
    hdescribes.tracks, hdescribes.commits_eq.symm, R, hreplay, hreplica.restarted_eq, fun t => ?_⟩
  rw [lookup, run_onStore]
  exact hreplica.lookup_eq t

/-- Two writers and a reader, of which the second writer waits for the slot, and changes that are
refused, taken back or forgotten. -/
def interleaved : List Op :=
  let p : Triple := ⟨.uri "s", .uri "p", .any⟩
  let q : Triple := ⟨.uri "s", .uri "p", .uri "o"⟩
  [.start "u" .readPromote, .start "v" .write, .start "w" .read, .add "v" p [.allow],
    .add "u" q [.deny], .add "v" ⟨.any, .any, .uri "o"⟩ [.allow], .addAlone q [.deny], .lookup q,
    .commit "v", .add "u" q [.deny], .add "w" q [.allow], .discard "w", .start "x" .write,
    .remove "u" p, .commit "u", .start "x" .write, .add "x" p [.deny], .abort "x"]

/-- What was collected is not found. Once it is committed it is found, also under a wildcard, until
it is overwritten or removed by a later commit. -/
theorem transactions_keep_the_protocol_interleaved :
    let p : Triple := ⟨.uri "s", .uri "p", .any⟩
    let q : Triple := ⟨.uri "s", .uri "p", .uri "o"⟩
    let collected := (run (interleaved.take 8) { store := .memory {} }).2
    let committed := (run (interleaved.take 9) { store := .memory {} }).2
    let σ := (run interleaved { store := .memory {} }).2
    ((lookup q).run.run collected).1 = .ok [] ∧ ((lookup q).run.run committed).1 = .ok [.allow] ∧
      ((lookup q).run.run σ).1 = .ok [.deny] ∧
      ((lookup { q with o := .uri "u" }).run.run σ).1 = .ok [] ∧
      ∃ R, (Store.memory {}).replay [.add p [.allow], .add q [.deny], .remove p] = some R ∧
        σ.store.restarted = R.restarted ∧ ((Store.lookup q).run.run R).1 = .ok [.deny] := by
  intro p q collected committed σ
  have hops : ∀ op ∈ interleaved, op.IsTransactional := by simp [interleaved, Op.IsTransactional]
  have hcommitted : (ledger interleaved { store := .memory {} }).committed
      = [.add p [.allow], .add q [.deny], .remove p] := by decide +kernel
  have hfound : ((lookup q).run.run σ).1 = .ok [.deny] := eq_ok_of_toOption (by decide +kernel)
  obtain ⟨-, -, -, -, -, -, -, -, R, hreplay, hrestarted, hlookup⟩ :=
    transactions_keep_the_protocol (.memory {}) hops
  rw [hcommitted] at hreplay
  refine ⟨eq_ok_of_toOption (by decide +kernel), eq_ok_of_toOption (by decide +kernel), hfound,
    eq_ok_of_toOption (by decide +kernel), R, hreplay, hrestarted, ?_⟩
  rw [← hlookup q]
  exact hfound

end SharedStore

end Clearance
