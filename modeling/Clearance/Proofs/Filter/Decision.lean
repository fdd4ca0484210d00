import Clearance.Filter
import Clearance.Proofs.Keeping
import Clearance.Proofs.Request.Session

/-!
# What a filter decides

A filter judges a triple by the labels that are recorded for it. The verdict is a matter of the
labels alone: the triple is visible when every label can be read and is true of the requester, and
hidden by the first label that is not true, be it that the label is false or that it cannot be read.
A label whose evaluation fails decides by its failure, if it is the first that is not true. What the
filter was asked before, what its caches hold and how large they are does not matter.

Labels come from outside, by computations with a state of their own. They must be steady: as long as
the filter is in use the same labels are recorded for a triple.

## Main definitions

* `Clearance.Request.Admits`, `Clearance.Request.Denies`, `Clearance.Request.Fails` — what a label
  says of a requester.
* `Clearance.Filter.Call`, `Clearance.Filter.after` — what a filter can be asked, and its state
  afterwards.
* `Clearance.Filter.Decided` — the decisions of a filter.

## Main results

* `Clearance.Filter.kept_after` — what every answer on a triple keeps is kept by all calls.
* `Clearance.Filter.decided_after_calls` — filters decide as described after any calls.
-/

namespace Clearance

namespace Request

variable (rq : Request)

/-- A label that can be read and is true of the requester. -/
def Admits (l : Label) : Prop := ∃ e, l.parse = .ok e ∧ rq.plainValue e = .ok true

/-- A label that cannot be read, or is false of the requester. -/
def Denies (l : Label) : Prop :=
  (∃ fault, l.parse = .error fault) ∨ ∃ e, l.parse = .ok e ∧ rq.plainValue e = .ok false

/-- A label that can be read but not be evaluated. -/
def Fails (l : Label) (err : Error) : Prop := ∃ e, l.parse = .ok e ∧ rq.plainValue e = .error err

theorem plainVerdict_true_iff {l : Label} : rq.plainVerdict l = .ok true ↔ rq.Admits l := by
  cases h : l.parse <;> simp [plainVerdict, Admits, h]

theorem plainVerdict_false_iff {l : Label} : rq.plainVerdict l = .ok false ↔ rq.Denies l := by
  cases h : l.parse <;> simp [plainVerdict, Denies, h]

theorem plainVerdict_error_iff {l : Label} {err : Error} :
    rq.plainVerdict l = .error err ↔ rq.Fails l err := by
  cases h : l.parse <;> simp [plainVerdict, Fails, h]

/-! ### The first label that is not true -/

/-- The first label of a list that does not admit the requester, without a session. -/
def plainDenial : List Label → Except Error (Option Label)
  | [] => .ok none
  | l :: ls => match rq.plainVerdict l with
    | .ok true => plainDenial ls
    | .ok false => .ok (some l)
    | .error err => .error err

theorem steady_firstDenial : ∀ ls : List Label,
    Steady (Session.Sound rq) (rq.firstDenial ls).run (rq.plainDenial ls)
  | [] => steady_pure _
  | l :: ls => by
    have hspec : rq.plainDenial (l :: ls) = (do
        if ← ExceptT.mk (rq.plainVerdict l) then ExceptT.mk (rq.plainDenial ls)
        else return some l : ExceptT Error Id (Option Label)).run := by
      rw [ExceptT.run_bind, plainDenial]
      cases h : rq.plainVerdict l with
      | error err => rfl
      | ok v => cases v <;> rfl
    rw [hspec]
    refine (steady_verdict rq l).bind_except (y := ExceptT.mk (rq.plainVerdict l)) fun v _ => ?_
    cases v with
    | true => exact steady_firstDenial ls
    | false => exact steady_pure _

theorem plainDenial_none_iff {ls : List Label} :
    rq.plainDenial ls = .ok none ↔ ∀ l ∈ ls, rq.Admits l := by
  induction ls with
  | nil => simp [plainDenial]
  | cons l ls ih =>
    rw [List.forall_mem_cons, ← ih, ← plainVerdict_true_iff, plainDenial]
    cases h : rq.plainVerdict l with
    | error err => simp
    | ok v => cases v <;> simp

theorem plainDenial_eq_of_admits {before : List Label} (h : ∀ l ∈ before, rq.Admits l)
    (rest : List Label) : rq.plainDenial (before ++ rest) = rq.plainDenial rest := by
  induction before with
  | nil => rfl
  | cons l ls ih =>
    obtain ⟨hl, hls⟩ := List.forall_mem_cons.1 h
    rw [List.cons_append, plainDenial, (rq.plainVerdict_true_iff).2 hl]
    exact ih hls

/-- A list of labels that do not all admit the requester has a first one that does not. -/
theorem exists_first_not_admits {ls : List Label} (h : rq.plainDenial ls ≠ .ok none) :
    ∃ before l rest, ls = before ++ l :: rest ∧ (∀ x ∈ before, rq.Admits x) ∧ ¬ rq.Admits l := by
  induction ls with
  | nil => exact absurd rfl h
  | cons l ls ih =>
    by_cases hl : rq.Admits l
    · rw [plainDenial, (rq.plainVerdict_true_iff).2 hl] at h
      obtain ⟨before, x, rest, rfl, hbefore, hx⟩ := ih h
      exact ⟨l :: before, x, rest, rfl, List.forall_mem_cons.2 ⟨hl, hbefore⟩, hx⟩
    · exact ⟨[], l, ls, rfl, by simp, hl⟩

theorem plainDenial_some_iff {ls : List Label} :
    (∃ l, rq.plainDenial ls = .ok (some l)) ↔ ∃ before l rest, ls = before ++ l :: rest ∧
      (∀ x ∈ before, rq.Admits x) ∧ rq.Denies l := by
  constructor
  · rintro ⟨l, h⟩
    have hnone : rq.plainDenial ls ≠ .ok none := by simp [h]
    obtain ⟨before, x, rest, rfl, hbefore, hx⟩ := rq.exists_first_not_admits hnone
    refine ⟨before, x, rest, rfl, hbefore, ?_⟩
    rw [plainDenial_eq_of_admits rq hbefore, plainDenial] at h
    rw [← plainVerdict_true_iff] at hx
    rw [← plainVerdict_false_iff]
    cases hv : rq.plainVerdict x with
    | error err => simp [hv] at h
    | ok v => cases v <;> simp_all
  · rintro ⟨before, l, rest, rfl, hbefore, hl⟩
    rw [plainDenial_eq_of_admits rq hbefore, plainDenial, (rq.plainVerdict_false_iff).2 hl]
    exact ⟨l, rfl⟩

theorem plainDenial_error_iff {ls : List Label} {err : Error} :
    rq.plainDenial ls = .error err ↔ ∃ before l rest, ls = before ++ l :: rest ∧
      (∀ x ∈ before, rq.Admits x) ∧ rq.Fails l err := by
  constructor
  · intro h
    have hnone : rq.plainDenial ls ≠ .ok none := by simp [h]
    obtain ⟨before, x, rest, rfl, hbefore, hx⟩ := rq.exists_first_not_admits hnone
    refine ⟨before, x, rest, rfl, hbefore, ?_⟩
    rw [plainDenial_eq_of_admits rq hbefore, plainDenial] at h
    rw [← plainVerdict_true_iff] at hx
    rw [← plainVerdict_error_iff]
    cases hv : rq.plainVerdict x with
    | error err' => simp_all
    | ok v => cases v <;> simp_all
  · rintro ⟨before, l, rest, rfl, hbefore, hl⟩
    rw [plainDenial_eq_of_admits rq hbefore, plainDenial, (rq.plainVerdict_error_iff).2 hl]

end Request

namespace Filter

variable {σ α β : Type}

/-! ### Running a filter -/

/-- Runs a computation of a filter on a session and the state that the labels come from. -/
def merged (x : ExceptT Error (StateT Session (StateM σ)) α) :
    ExceptT Error (StateM (Session × σ)) α := ExceptT.mk fun (session, s) =>
  let ((r, session), s) := (x.run.run session).run s
  (r, (session, s))

theorem run_merged (x : ExceptT Error (StateT Session (StateM σ)) α) (session : Session) (s : σ) :
    (merged x).run.run (session, s) = match (x.run.run session).run s with
      | ((r, session), s) => (r, (session, s)) := rfl

theorem merged_bind (x : ExceptT Error (StateT Session (StateM σ)) α)
    (k : α → ExceptT Error (StateT Session (StateM σ)) β) :
    merged (x >>= k) = merged x >>= fun a => merged (k a) := by
  funext ⟨session, s⟩
  change (merged (x >>= k)).run.run (session, s)
    = (merged x >>= fun a => merged (k a)).run.run (session, s)
  rw [run_merged, ExceptT.run_bind, StateT.run_bind, StateT.run_bind]
  cases h : (x.run.run session).run s with
  | mk p s' =>
    obtain ⟨r, session'⟩ := p
    have hx : (merged x).run.run (session, s) = (r, (session', s')) := by
      rw [run_merged, h]
    cases r with
    | ok a =>
      rw [run_bind_ok hx]
      rfl
    | error e =>
      rw [run_bind_error hx]
      rfl

/-- Something that a filter is asked. -/
inductive Call where
  /-- Whether a triple is visible. -/
  | test (t : Triple)
  /-- Which triples of a list are visible. -/
  | filter (ts : List Triple)

/-- Answers a call, whatever the answer is. -/
def serve (f : Filter (StateM σ)) : Call → StateM (Session × σ) Unit
  | .test t => discard (merged (f.admits t)).run
  | .filter ts => discard (merged (f.visible ts)).run

/-- The state of a filter after some calls. -/
def after (f : Filter (StateM σ)) (calls : List Call) (s : Session × σ) : Session × σ :=
  calls.foldl (fun s call => ((f.serve call).run s).2) s

section Calls

variable {f : Filter (StateM σ)} {P : Session × σ → Prop}
  (h : ∀ t, Keeps P (merged (f.admits t)) fun _ => True)

include h

theorem keeps_visible : ∀ ts : List Triple, Keeps P (merged (f.visible ts)) fun _ => True
  | [] => fun _ hs => ⟨hs, fun _ _ => trivial⟩
  | t :: ts => by
    rw [visible, merged_bind]
    refine (h t).bind fun v _ => ?_
    cases v with
    | true =>
      rw [if_pos rfl, merged_bind]
      exact (keeps_visible ts).bind fun _ _ _ hs => ⟨hs, fun _ _ => trivial⟩
    | false => exact keeps_visible ts

/-- **What every answer on a triple keeps is kept by all calls.** -/
theorem kept_after : ∀ (calls : List Call) {s : Session × σ}, P s → P (f.after calls s)
  | [], _, hs => hs
  | call :: calls, s, hs => by
    refine kept_after calls ?_
    cases call with
    | test t => exact (h t s hs).1
    | filter ts => exact (keeps_visible h ts s hs).1

end Calls

/-- The decisions of a filter: the answers of `test` on triples and of `filter` on lists of triples,
given what is recorded. -/
structure Decided {m : Type → Type} (f : Filter m)
    (recorded : Triple → Except Error (Option (List Label)))
    (test : Triple → Except Error Bool) (filter : List Triple → Except Error (List Triple)) :
    Prop where
  /-- A failure to find what is recorded is the answer. -/
  unknown : ∀ {t err}, recorded t = .error err → test t = .error err
  /-- Where labels are not kept, the policy decides. -/
  unlabelled : ∀ {t}, recorded t = .ok none → test t = .ok f.policy.admitsUnlabelled
  /-- A triple is visible if and only if all its labels can be read and are true. -/
  visible : ∀ {t ls}, recorded t = .ok (some ls) →
    (test t = .ok true ↔ ∀ l ∈ f.policy.effective ls, f.request.Admits l)
  /-- A triple is hidden if and only if its first label that is not true is false or cannot be
  read. -/
  hidden : ∀ {t ls}, recorded t = .ok (some ls) →
    (test t = .ok false ↔ ∃ before l rest, f.policy.effective ls = before ++ l :: rest ∧
      (∀ x ∈ before, f.request.Admits x) ∧ f.request.Denies l)
  /-- The answer is a failure if and only if the first label that is not true fails so. -/
  failed : ∀ {t ls err}, recorded t = .ok (some ls) →
    (test t = .error err ↔ ∃ before l rest, f.policy.effective ls = before ++ l :: rest ∧
      (∀ x ∈ before, f.request.Admits x) ∧ f.request.Fails l err)
  /-- Of a list, the visible triples are given in their order. -/
  sublist : ∀ {ts}, (∀ t ∈ ts, ∃ v, test t = .ok v) →
    filter ts = .ok (ts.filter fun t => (test t).toOption = some true)
  /-- The first failure is the answer for the whole list. -/
  interrupted : ∀ {before t rest err}, (∀ x ∈ before, ∃ v, test x = .ok v) → test t = .error err →
    filter (before ++ t :: rest) = .error err

/-! ### The decisions -/

section Steady

variable {f : Filter (StateM σ)} {stable : σ → Prop}
  {recorded : Triple → Except Error (Option (List Label))}

/-- States in which the session is sound and the source of labels is as it should be. -/
def Stable (f : Filter (StateM σ)) (stable : σ → Prop) (s : Session × σ) : Prop :=
  s.1.Sound f.request ∧ stable s.2

/-- The decision on a triple, given what is recorded for it. -/
def plainDecision {m : Type → Type} (f : Filter m) :
    Except Error (Option (List Label)) → Except Error Bool
  | .error err => .error err
  | .ok none => .ok f.policy.admitsUnlabelled
  | .ok (some ls) => (f.request.plainDenial (f.policy.effective ls)).map Option.isNone

theorem steady_judge {m : Type → Type} (f : Filter m) (t : Triple) (known : Option (List Label)) :
    Steady (Session.Sound f.request) (judge f.request f.policy t known).run
      (f.plainDecision (.ok known)) := by
  cases known with
  | none =>
    exact (f.request.steady_note _).bind_except (y := (pure () : ExceptT Error Id Unit))
      (l := fun _ => pure f.policy.admitsUnlabelled) fun _ _ => steady_pure _
  | some ls =>
    have hspec : f.plainDecision (.ok (some ls)) =
        (ExceptT.mk (f.request.plainDenial (f.policy.effective ls)) >>= fun l? => pure l?.isNone :
          ExceptT Error Id Bool).run := by
      rw [ExceptT.run_bind, plainDecision]
      cases f.request.plainDenial (f.policy.effective ls) <;> rfl
    rw [hspec]
    refine (f.request.steady_firstDenial _).bind_except fun l? _ => ?_
    cases l? with
    | some l =>
      exact (f.request.steady_note _).bind_except (y := (pure () : ExceptT Error Id Unit))
        (l := fun _ => pure false) fun _ _ => steady_pure _
    | none =>
      exact (f.request.steady_note _).bind_except (y := (pure () : ExceptT Error Id Unit))
        (l := fun _ => pure true) fun _ _ => steady_pure _

/-- **The answer on a triple** in a sound session, which stays sound: it is the decision on what is
recorded, for which the source of labels is asked once. -/
theorem run_admits {session : Session} (hsession : session.Sound f.request) (s : σ) (t : Triple) :
    ∃ session' : Session, session'.Sound f.request ∧
      (merged (f.admits t)).run.run (session, s) = (f.plainDecision ((f.labels? t).run.run s).1,
        (session', ((f.labels? t).run.run s).2)) := by
  have hasked : (merged (ExceptT.mk (StateT.lift (f.labels? t).run))).run.run (session, s)
      = (((f.labels? t).run.run s).1, (session, ((f.labels? t).run.run s).2)) := rfl
  rw [admits, merged_bind]
  generalize (f.labels? t).run.run s = asked at hasked ⊢
  rcases asked with ⟨err | known, s'⟩
  · exact ⟨session, hsession, run_bind_error hasked _⟩
  · obtain ⟨hanswer, hsession'⟩ := f.steady_judge t known session hsession
    refine ⟨_, hsession', ?_⟩
    rw [run_bind_ok hasked, ← hanswer]
    rfl

theorem steady_admits (h : ∀ t, Steady stable (f.labels? t).run (recorded t)) (t : Triple) :
    Steady (f.Stable stable) (merged (f.admits t)).run (f.plainDecision (recorded t)) := by
  rintro ⟨session, s⟩ ⟨hsession, hs⟩
  obtain ⟨hanswer, hs'⟩ := h t s hs
  obtain ⟨session', hsession', hrun⟩ := run_admits hsession s t
  rw [hrun, ← hanswer]
  exact ⟨rfl, hsession', hs'⟩

/-- The visible triples of a list, without a session. -/
def plainVisible {m : Type → Type} (f : Filter m)
    (recorded : Triple → Except Error (Option (List Label))) :
    List Triple → Except Error (List Triple)
  | [] => .ok []
  | t :: ts => do
    if ← f.plainDecision (recorded t) then return t :: (← f.plainVisible recorded ts)
    else f.plainVisible recorded ts

theorem steady_visible (h : ∀ t, Steady stable (f.labels? t).run (recorded t)) : ∀ ts : List Triple,
    Steady (f.Stable stable) (merged (f.visible ts)).run (f.plainVisible recorded ts)
  | [] => fun _ hs => ⟨rfl, hs⟩
  | t :: ts => by
    have hspec : f.plainVisible recorded (t :: ts) = (do
        if ← ExceptT.mk (f.plainDecision (recorded t)) then
          return t :: (← ExceptT.mk (f.plainVisible recorded ts))
        else ExceptT.mk (f.plainVisible recorded ts) : ExceptT Error Id (List Triple)).run := by
      rw [ExceptT.run_bind, plainVisible]
      cases f.plainDecision (recorded t) with
      | error err => rfl
      | ok v =>
        cases v with
        | true => cases f.plainVisible recorded ts <;> rfl
        | false => rfl
    rw [visible, merged_bind, hspec]
    refine (steady_admits h t).bind_except (y := ExceptT.mk (f.plainDecision (recorded t)))
      fun v _ => ?_
    cases v with
    | true =>
      rw [if_pos rfl, if_pos rfl, merged_bind]
      exact (steady_visible h ts).bind_except (y := ExceptT.mk (f.plainVisible recorded ts))
        fun _ _ _ hs => ⟨rfl, hs⟩
    | false => exact steady_visible h ts

theorem stable_after (h : ∀ t, Steady stable (f.labels? t).run (recorded t)) (calls : List Call)
    {s : Session × σ} (hs : f.Stable stable s) : f.Stable stable (f.after calls s) :=
  kept_after (fun t s hs => ⟨(steady_admits h t s hs).2, fun _ _ => trivial⟩) calls hs

theorem plainVisible_of_ok {m : Type → Type} {f : Filter m}
    {recorded : Triple → Except Error (Option (List Label))} {ts : List Triple}
    (h : ∀ t ∈ ts, ∃ v, f.plainDecision (recorded t) = .ok v) (rest : List Triple) :
    f.plainVisible recorded (ts ++ rest) = (f.plainVisible recorded rest).map
      (ts.filter (fun t => (f.plainDecision (recorded t)).toOption = some true) ++ ·) := by
  induction ts with
  | nil => cases hr : f.plainVisible recorded rest <;> simp [hr, Except.map]
  | cons t ts ih =>
    obtain ⟨⟨v, hv⟩, hts⟩ := List.forall_mem_cons.1 h
    have ih := ih hts
    rw [List.cons_append, plainVisible, hv, ih]
    cases v <;> cases f.plainVisible recorded rest <;>
      simp [hv, Except.toOption, Except.map, bind, Except.bind, pure, Except.pure]

theorem decided_plain {m : Type → Type} (f : Filter m)
    (recorded : Triple → Except Error (Option (List Label))) :
    f.Decided recorded (fun t => f.plainDecision (recorded t)) (f.plainVisible recorded) where
  unknown h := by rw [h, plainDecision]
  unlabelled h := by rw [h, plainDecision]
  visible {t ls} h := by
    rw [h, ← f.request.plainDenial_none_iff, plainDecision]
    cases f.request.plainDenial (f.policy.effective ls) <;> simp [Except.map]
  hidden {t ls} h := by
    rw [h, ← f.request.plainDenial_some_iff, plainDecision]
    cases f.request.plainDenial (f.policy.effective ls) with
    | error err => simp [Except.map]
    | ok l? => cases l? <;> simp [Except.map]
  failed {t ls err} h := by
    rw [h, ← f.request.plainDenial_error_iff, plainDecision]
    cases f.request.plainDenial (f.policy.effective ls) <;> simp [Except.map]
  sublist {ts} h := by
    have := plainVisible_of_ok h []
    rw [List.append_nil] at this
    rw [this]
    simp [plainVisible, Except.map]
  interrupted {before t rest err} hbefore ht := by
    rw [plainVisible_of_ok hbefore, plainVisible, ht]
    rfl

/-- **The decisions of a filter.** After any calls, with caches of any size, a filter decides on
triples and on lists of triples by what is recorded alone, as long as that is steady. -/
theorem decided_after_calls (h : ∀ t, Steady stable (f.labels? t).run (recorded t))
    (sizes : SessionSizes) {s₀ : σ} (hs₀ : stable s₀) (calls : List Call) :
    f.Decided recorded
      (fun t => ((merged (f.admits t)).run.run (f.after calls (.start sizes, s₀))).1)
      (fun ts => ((merged (f.visible ts)).run.run (f.after calls (.start sizes, s₀))).1) := by
  have hstable : f.Stable stable (f.after calls (.start sizes, s₀)) :=
    stable_after h calls ⟨f.request.sound_start sizes, hs₀⟩
  have htest : (fun t => ((merged (f.admits t)).run.run (f.after calls (.start sizes, s₀))).1) =
      fun t => f.plainDecision (recorded t) :=
    funext fun t => (steady_admits h t _ hstable).1
  have hfilter :
      (fun ts => ((merged (f.visible ts)).run.run (f.after calls (.start sizes, s₀))).1) =
      f.plainVisible recorded :=
    funext fun ts => (steady_visible h ts _ hstable).1
  rw [htest, hfilter]
  exact decided_plain f recorded

end Steady

/-- A source of labels that counts how often it is asked, and a filter with caches of one and of no
entry. -/
theorem decided_after_calls_counting :
    let rq : Request := { attributes := .empty, hierarchy? := fun _ => none }
    let t : Triple := ⟨.uri "s", .uri "p", .uri "o"⟩
    let recorded : Triple → Except Error (Option (List Label)) := fun t =>
      if t.isConcrete then .ok (some [Label.allow, Label.deny]) else .error .closed
    let f : Filter (StateM Nat) := { request := rq, policy := {}, labels? := fun t => do
      modify (· + 1)
      liftM (recorded t) }
    (∀ t, Steady (fun _ => True) (f.labels? t).run (recorded t)) ∧
      f.Decided recorded
        (fun u => ((merged (f.admits u)).run.run
          (f.after [.test t, .filter [t, ⟨.any, .any, .any⟩]] (.start ⟨1, 0⟩, 0))).1)
        (fun us => ((merged (f.visible us)).run.run
          (f.after [.test t, .filter [t, ⟨.any, .any, .any⟩]] (.start ⟨1, 0⟩, 0))).1) := by
  intro rq t recorded f
  have hsteady : ∀ t, Steady (fun _ => True) (f.labels? t).run (recorded t) :=
    fun _ _ _ => ⟨rfl, trivial⟩
  exact ⟨hsteady, decided_after_calls hsteady _ trivial _⟩

end Filter

end Clearance
