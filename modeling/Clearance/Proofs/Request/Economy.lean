import Mathlib.Data.List.Induction
import Clearance.Proofs.Request.Inquiry
import Clearance.Proofs.Request.Transparency

/-!
# No work is done twice in a session

Labels are judged one after the other in one session, each by an evaluation of its own, which need
not be the same each time. As long as there is room for the verdicts on all different labels, a
label is evaluated once if it gets a verdict, and a label that cannot be read gets one; only when
its evaluation fails otherwise is it evaluated again. As long as there is room for all hierarchies
that are asked for, each of them is fetched once, in whatever evaluation it is asked for, and also
if there is none.

## Main definitions

* `Clearance.Call` — a label to be judged.
* `Clearance.Trace` — what comes of calls in one session.

## Main results

* `Clearance.Call.run_of_mem`, `Clearance.Call.run_of_not_mem` — what a call does.
* `Clearance.Trace.no_work_is_done_twice`
-/

namespace Clearance

/-- The session in which the evaluation of a label begins. -/
def Session.evaluating (s : Session) (l : Label) : Session :=
  { s with verdicts := (s.verdicts.get l).2, evaluated := s.evaluated ++ [l] }

/-- A label to be judged, and how it is evaluated if it is. -/
structure Call where
  /-- The request. -/
  request : Request
  /-- The label. -/
  label : Label
  /-- The evaluation. -/
  evaluation : Inquiry (Except Error Bool)

namespace Call

variable (c : Call) (s : Session)

/-- The verdict on the label. -/
def verdict : SessionM Bool := c.request.verdictBy c.label (ExceptT.mk c.evaluation.run)

/-- The attributes whose hierarchies are asked for. -/
def asked : List Attribute :=
  if c.label ∈ s.verdicts.keys then [] else c.evaluation.asked (s.evaluating c.label)

/-- The session that the evaluation leaves. -/
def evaluated : Session := (c.evaluation.run.run (s.evaluating c.label)).2

/-- A verdict that is kept is given again. -/
theorem run_of_mem (h : c.label ∈ s.verdicts.keys) :
    ∃ v, c.verdict.run.run s = (.ok v, { s with verdicts := (s.verdicts.get c.label).2 }) := by
  obtain ⟨v, hv⟩ := BoundedCache.exists_find?_of_mem h
  have hfst := s.verdicts.get_fst c.label
  refine ⟨v, ?_⟩
  unfold verdict Request.verdictBy
  rw [run_get_bind]
  rcases hget : s.verdicts.get c.label with ⟨found, cache⟩
  rw [hget, hv] at hfst
  subst hfst
  rfl

/-- A new verdict is kept, after a report of it if there is one. -/
theorem run_keep (rq : Request) (l : Label) (v : Bool) (s : Session) :
    ∃ events, (do
        rq.note (.labelEvaluated l v)
        modify fun s => { s with verdicts := s.verdicts.insert l v }
        return v : SessionM Bool).run.run s
      = (.ok v, { s with events, verdicts := s.verdicts.insert l v }) := by
  unfold Request.note
  split
  · exact ⟨_, rfl⟩
  · exact ⟨_, rfl⟩

/-- Otherwise the label is evaluated. It gets a verdict, which is kept, unless the evaluation fails
in another way than that the label cannot be read. -/
theorem run_of_not_mem (h : c.label ∉ s.verdicts.keys) :
    (∃ v events, c.verdict.run.run s = (.ok v, { c.evaluated s with
        events, verdicts := (c.evaluated s).verdicts.insert c.label v })) ∨
      ∃ err, (∀ fault, err ≠ .malformed fault) ∧
        c.verdict.run.run s = (.error err, c.evaluated s) := by
  have hfst := s.verdicts.get_fst c.label
  rw [BoundedCache.find?_eq_none_iff.2 h] at hfst
  unfold verdict Request.verdictBy
  rw [run_get_bind]
  rcases hget : s.verdicts.get c.label with ⟨_ | v, cache⟩
  · have hbegin : s.evaluating c.label = { s with
        verdicts := cache, evaluated := s.evaluated ++ [c.label] } := by
      rw [Session.evaluating, hget]
    rcases hrun : (ExceptT.mk c.evaluation.run : SessionM Bool).run.run (s.evaluating c.label) with
      ⟨r, s'⟩
    have hevaluated : c.evaluated s = s' := congrArg Prod.snd hrun
    rw [run_set_bind, ← hbegin, hevaluated]
    cases r with
    | ok v =>
      rw [run_tryCatch_bind_ok hrun]
      obtain ⟨events, hkeep⟩ := run_keep c.request c.label v s'
      exact .inl ⟨v, events, hkeep⟩
    | error err =>
      rw [run_tryCatch_bind_error hrun]
      cases err with
      | malformed fault =>
        obtain ⟨events, hkeep⟩ := run_keep c.request c.label false
          { s' with events := s'.events ++ [.labelUnreadable c.label fault] }
        exact .inl ⟨false, events, hkeep⟩
      | _ =>
        refine .inr ⟨_, ?_, rfl⟩
        exact fun _ => nofun
  · rw [hget] at hfst
    cases hfst

/-- What an evaluation does not touch. -/
theorem evaluated_frame : (c.evaluated s).verdicts = (s.verdicts.get c.label).2 ∧
    (c.evaluated s).evaluated = s.evaluated ++ [c.label] ∧
    (c.evaluated s).hierarchies.capacity = s.hierarchies.capacity :=
  Session.run_inquiry_frame c.evaluation (s.evaluating c.label)

end Call

/-- The call for a label whose expression is evaluated. -/
def Request.call (rq : Request) (l : Label) : Call where
  request := rq
  label := l
  evaluation := (l.evaluate rq.inquirer).run

theorem Request.verdict_call (rq : Request) (l : Label) : (rq.call l).verdict = rq.verdict l :=
  congrArg (rq.verdictBy l) (rq.run_evaluate l)

/-- What comes of calls in one session. -/
structure Trace where
  /-- The session. -/
  session : Session
  /-- The labels and what the calls gave for them, in order. -/
  answers : List (Label × Except Error Bool) := []
  /-- The attributes whose hierarchies were asked for, in order. -/
  asked : List Attribute := []

namespace Trace

variable {t : Trace} {c : Call} {sizes : SessionSizes} {calls : List Call}

/-- What comes of one more call. -/
def call (t : Trace) (c : Call) : Trace where
  session := (c.verdict.run.run t.session).2
  answers := t.answers ++ [(c.label, (c.verdict.run.run t.session).1)]
  asked := t.asked ++ c.asked t.session

/-- What comes of calls in a session that begins with them. -/
def ofCalls (sizes : SessionSizes) (calls : List Call) : Trace :=
  calls.foldl call { session := .start sizes }

/-- The labels that got verdicts, as often as they did. -/
def judged (t : Trace) : List Label := (t.answers.filter fun c => c.2.isOk).map Prod.fst

/-- The labels that got none, as often as they did not. -/
def failed (t : Trace) : List Label := (t.answers.filter fun c => !c.2.isOk).map Prod.fst

theorem ofCalls_concat (sizes : SessionSizes) (calls : List Call) (c : Call) :
    ofCalls sizes (calls ++ [c]) = (ofCalls sizes calls).call c := by
  simp [ofCalls]

/-! ### One call -/

theorem judged_call {v : Bool} (h : (c.verdict.run.run t.session).1 = .ok v) :
    (t.call c).judged = t.judged ++ [c.label] ∧ (t.call c).failed = t.failed := by
  simp [judged, failed, call, h, Except.isOk, Except.toBool]

theorem failed_call {err : Error} (h : (c.verdict.run.run t.session).1 = .error err) :
    (t.call c).judged = t.judged ∧ (t.call c).failed = t.failed ++ [c.label] := by
  simp [judged, failed, call, h, Except.isOk, Except.toBool]

theorem capacity_call (t : Trace) (c : Call) :
    (t.call c).session.verdicts.capacity = t.session.verdicts.capacity ∧
      (t.call c).session.hierarchies.capacity = t.session.hierarchies.capacity := by
  have hcapacity := t.session.verdicts.capacity_get c.label
  rw [call]
  by_cases hmem : c.label ∈ t.session.verdicts.keys
  · obtain ⟨v, hrun⟩ := c.run_of_mem t.session hmem
    rw [hrun]
    exact ⟨hcapacity, rfl⟩
  · obtain ⟨hverdicts, -, hhierarchies⟩ := c.evaluated_frame t.session
    obtain ⟨v, events, hrun⟩ | ⟨err, -, hrun⟩ := c.run_of_not_mem t.session hmem
    · rw [hrun]
      refine ⟨?_, hhierarchies⟩
      rw [BoundedCache.capacity_insert, hverdicts, hcapacity]
    · rw [hrun]
      exact ⟨by rw [hverdicts, hcapacity], hhierarchies⟩

/-- The session keeps all verdicts, and labels were evaluated once if they got one and else as often
as they got none. -/
structure KeepsVerdicts (t : Trace) : Prop where
  keys : t.session.verdicts.keys = t.judged.eraseDups
  evaluated : t.session.evaluated.Perm (t.failed ++ t.judged.eraseDups)

/-- **A label is evaluated again only if it got no verdict**, while there is room. -/
theorem KeepsVerdicts.call (h : t.KeepsVerdicts)
    (hroom : (t.judged ++ [c.label]).eraseDups.length ≤ t.session.verdicts.capacity) :
    (t.call c).KeepsVerdicts := by
  have hkeys := (t.session.verdicts.keys_get c.label).trans h.keys
  by_cases hmem : c.label ∈ t.session.verdicts.keys
  · obtain ⟨v, hrun⟩ := c.run_of_mem t.session hmem
    obtain ⟨hjudged, hfailed⟩ := judged_call (congrArg Prod.fst hrun)
    have hold : (t.judged ++ [c.label]).eraseDups = t.judged.eraseDups := by
      rw [h.keys, List.mem_eraseDups] at hmem
      exact eraseDups_concat_of_mem hmem
    constructor
    · rw [hjudged, hold, Trace.call, hrun]
      exact hkeys
    · rw [hjudged, hfailed, hold, Trace.call, hrun]
      exact h.evaluated
  · obtain ⟨hverdicts, hevaluated, -⟩ := c.evaluated_frame t.session
    obtain ⟨v, events, hrun⟩ | ⟨err, -, hrun⟩ := c.run_of_not_mem t.session hmem
    · obtain ⟨hjudged, hfailed⟩ := judged_call (congrArg Prod.fst hrun)
      have hnew : (t.judged ++ [c.label]).eraseDups = t.judged.eraseDups ++ [c.label] := by
        rw [h.keys, List.mem_eraseDups] at hmem
        exact eraseDups_concat_of_not_mem hmem
      constructor
      · rw [hjudged, Trace.call, hrun]
        refine BoundedCache.keys_insert ?_ ?_ v
        · rw [hverdicts, hkeys]
        · rwa [hverdicts, BoundedCache.capacity_get]
      · rw [hjudged, hfailed, hnew, Trace.call, hrun, ← List.append_assoc]
        exact hevaluated ▸ h.evaluated.append_right _
    · obtain ⟨hjudged, hfailed⟩ := failed_call (congrArg Prod.fst hrun)
      constructor
      · rw [hjudged, Trace.call, hrun]
        exact (congrArg BoundedCache.keys hverdicts).trans hkeys
      · rw [hjudged, hfailed, Trace.call, hrun, hevaluated]
        have hlast : (t.session.evaluated ++ [c.label]).Perm
            (t.failed ++ (t.judged.eraseDups ++ [c.label])) := by
          rw [← List.append_assoc]
          exact h.evaluated.append_right _
        rw [List.append_assoc]
        exact hlast.trans (List.perm_append_comm.append_left _)

/-- **Each hierarchy is fetched once**, while there is room. -/
theorem keepsAll_call (h : t.session.KeepsAll t.asked)
    (hroom : (t.call c).asked.eraseDups.length ≤ t.session.hierarchies.capacity) :
    (t.call c).session.KeepsAll (t.call c).asked := by
  rw [call] at hroom ⊢
  by_cases hmem : c.label ∈ t.session.verdicts.keys
  · obtain ⟨v, hrun⟩ := c.run_of_mem t.session hmem
    rw [Call.asked, if_pos hmem, List.append_nil, hrun]
    exact ⟨h.keys, h.fetched⟩
  · rw [Call.asked, if_neg hmem] at hroom ⊢
    have hevaluating : (t.session.evaluating c.label).KeepsAll t.asked := ⟨h.keys, h.fetched⟩
    have hleft : (c.evaluated t.session).KeepsAll _ := hevaluating.run hroom
    obtain ⟨v, events, hrun⟩ | ⟨err, -, hrun⟩ := c.run_of_not_mem t.session hmem
    · rw [hrun]
      exact ⟨hleft.keys, hleft.fetched⟩
    · rw [hrun]
      exact hleft

/-- A label that cannot be read gets a verdict. -/
theorem ne_malformed_of_call (t : Trace) (c : Call) (fault : TextFault) :
    (c.verdict.run.run t.session).1 ≠ .error (.malformed fault) := by
  by_cases hmem : c.label ∈ t.session.verdicts.keys
  · obtain ⟨v, hrun⟩ := c.run_of_mem t.session hmem
    rw [hrun]
    nofun
  · obtain ⟨v, events, hrun⟩ | ⟨err, hother, hrun⟩ := c.run_of_not_mem t.session hmem
    · rw [hrun]
      nofun
    · rw [hrun]
      exact fun heq => hother fault (Except.error.inj heq)

/-! ### All calls -/

theorem capacity_ofCalls (sizes : SessionSizes) (calls : List Call) :
    (ofCalls sizes calls).session.verdicts.capacity = sizes.verdicts ∧
      (ofCalls sizes calls).session.hierarchies.capacity = sizes.hierarchies := by
  induction calls using List.reverseRecOn with
  | nil => exact ⟨rfl, rfl⟩
  | append_singleton calls c ih =>
    obtain ⟨hverdicts, hhierarchies⟩ := (ofCalls sizes calls).capacity_call c
    rw [ofCalls_concat, hverdicts, hhierarchies]
    exact ih

theorem labels_ofCalls (sizes : SessionSizes) (calls : List Call) :
    (ofCalls sizes calls).answers.map Prod.fst = calls.map Call.label := by
  induction calls using List.reverseRecOn with
  | nil => rfl
  | append_singleton calls c ih => simp [ofCalls_concat, call, ih]

theorem judged_subset (sizes : SessionSizes) (calls : List Call) :
    (ofCalls sizes calls).judged ⊆ calls.map Call.label := by
  rw [← labels_ofCalls sizes calls]
  exact List.map_subset _ List.filter_sublist.subset

theorem keepsVerdicts_ofCalls
    (hroom : (calls.map Call.label).eraseDups.length ≤ sizes.verdicts) :
    (ofCalls sizes calls).KeepsVerdicts := by
  induction calls using List.reverseRecOn with
  | nil => exact ⟨rfl, .nil⟩
  | append_singleton calls c ih =>
    rw [List.map_append] at hroom
    have hbefore :=
      ih (Nat.le_trans (length_eraseDups_le_of_subset (List.subset_append_left _ _)) hroom)
    rw [ofCalls_concat]
    refine hbefore.call ?_
    rw [(capacity_ofCalls sizes calls).1]
    refine Nat.le_trans (length_eraseDups_le_of_subset ?_) hroom
    exact List.append_subset.2 ⟨List.subset_append_of_subset_left _ (judged_subset sizes calls),
      List.subset_append_right _ _⟩

theorem keepsAll_ofCalls
    (hroom : (ofCalls sizes calls).asked.eraseDups.length ≤ sizes.hierarchies) :
    (ofCalls sizes calls).session.KeepsAll (ofCalls sizes calls).asked := by
  induction calls using List.reverseRecOn with
  | nil => exact ⟨rfl, rfl⟩
  | append_singleton calls c ih =>
    rw [ofCalls_concat] at hroom ⊢
    have hbefore :=
      ih (Nat.le_trans (length_eraseDups_le_of_subset (List.subset_append_left _ _)) hroom)
    refine keepsAll_call hbefore ?_
    rwa [(capacity_ofCalls sizes calls).2]

theorem ne_malformed_ofCalls (sizes : SessionSizes) (calls : List Call) :
    ∀ c ∈ (ofCalls sizes calls).answers, ∀ fault, c.2 ≠ .error (.malformed fault) := by
  induction calls using List.reverseRecOn with
  | nil => exact fun c hc => absurd hc List.not_mem_nil
  | append_singleton calls c ih =>
    rw [ofCalls_concat]
    intro answer hmem fault
    rcases List.mem_append.1 hmem with hmem | hmem
    · exact ih answer hmem fault
    · rw [List.mem_singleton.1 hmem]
      exact ne_malformed_of_call _ c fault

/-- The labels of a list, each judged by its expression, are calls one after the other. -/
theorem foldl_call (rq : Request) (ls : List Label) (t : Trace) (h : t.session.Sound rq) :
    ((ls.map rq.call).foldl call t).session = ((rq.verdicts ls).run t.session).2 ∧
      ((ls.map rq.call).foldl call t).answers = t.answers ++ ls.map fun l =>
        (l, rq.plainVerdict l) := by
  induction ls generalizing t with
  | nil => exact ⟨rfl, (List.append_nil _).symm⟩
  | cons l ls ih =>
    have hverdict : (rq.call l).verdict = rq.verdict l := rq.verdict_call l
    obtain ⟨hanswer, hsound⟩ := rq.steady_verdict l t.session h
    rw [← hverdict] at hanswer hsound
    obtain ⟨hsession, hanswers⟩ := ih (t.call (rq.call l)) hsound
    rw [List.map_cons, List.foldl_cons, hsession, hanswers]
    constructor
    · rw [call, hverdict, rq.verdicts_cons]
      rfl
    · rw [call, hanswer, List.map_cons, List.append_assoc]
      rfl

/-- Labels judged by their expressions: one that has a verdict is evaluated once, any other at each
call. -/
theorem KeepsVerdicts.count {rq : Request} {ls : List Label} (h : t.KeepsVerdicts)
    (hanswers : t.answers = ls.map fun l => (l, rq.plainVerdict l)) {l : Label} (hl : l ∈ ls) :
    t.session.evaluated.count l = if (rq.plainVerdict l).isOk then 1 else ls.count l := by
  have hjudged : t.judged = ls.filter fun l => (rq.plainVerdict l).isOk := by
    simp [judged, hanswers, List.filter_map, Function.comp_def]
  have hfailed : t.failed = ls.filter fun l => !(rq.plainVerdict l).isOk := by
    simp [failed, hanswers, List.filter_map, Function.comp_def]
  rw [h.evaluated.count_eq, List.count_append, (nodup_eraseDups _).count, hjudged, hfailed]
  cases hok : (rq.plainVerdict l).isOk with
  | true => simp [hok, hl, List.count_eq_zero]
  | false => simp [hok, List.count_filter]

/-- **No work is done twice.** Let labels be judged one after the other in a session, in whatever
ways they are evaluated. With room for the verdicts on all different labels, the evaluations are
those that failed otherwise than that the label cannot be read, and one for each label that got a
verdict. With room for all hierarchies that were asked for, each of them was fetched once. Labels
judged by their expressions are a case of this, in which each label has a verdict or always
fails. -/
theorem no_work_is_done_twice (sizes : SessionSizes) (calls : List Call) :
    let t := ofCalls sizes calls
    ((calls.map Call.label).eraseDups.length ≤ sizes.verdicts →
      t.session.evaluated.Perm (t.failed ++ t.judged.eraseDups)) ∧
    (t.asked.eraseDups.length ≤ sizes.hierarchies → t.session.fetched = t.asked.eraseDups) ∧
    (∀ c ∈ t.answers, ∀ fault, c.2 ≠ .error (.malformed fault)) ∧
    ∀ (rq : Request) (ls : List Label), calls = ls.map rq.call →
      t.session = ((rq.verdicts ls).run (.start sizes)).2 ∧
      t.answers = (ls.map fun l => (l, rq.plainVerdict l)) ∧
      (ls.eraseDups.length ≤ sizes.verdicts → ∀ l ∈ ls,
        t.session.evaluated.count l = if (rq.plainVerdict l).isOk then 1 else ls.count l) := by
  refine ⟨fun hroom => (keepsVerdicts_ofCalls hroom).evaluated,
    fun hroom => (keepsAll_ofCalls hroom).fetched, ne_malformed_ofCalls sizes calls, ?_⟩
  rintro rq ls rfl
  obtain ⟨hsession, hanswers⟩ := foldl_call rq ls { session := .start sizes } (rq.sound_start sizes)
  refine ⟨hsession, hanswers, fun hroom l hl => ?_⟩
  have hlabels : (ls.map rq.call).map Call.label = ls := by
    rw [List.map_map]
    exact List.map_id ls
  exact (keepsVerdicts_ofCalls (by rwa [hlabels])).count hanswers hl

/-- A label that cannot be read, one that fails after a hierarchy that there is not, and one that is
reached by a hierarchy, twice each. -/
theorem no_work_is_done_twice_repeated :
    let rq : Request :=
      { attributes := .ofPairs [("clearance", .text "secret"), ("staff", .flag true)]
        hierarchy? := fun a =>
          if a = "clearance" then some ⟨"clearance", [.text "public", .text "secret"]⟩ else none }
    let unreadable : Label := .ofText "staff &"
    let fails : Label := .ofText "staff = yes | clearance < secret"
    let reached : Label := .ofText "clearance = public"
    let ls : List Label := [unreadable, fails, reached, unreadable, fails, reached]
    let s : Session := ((rq.verdicts ls).run (.start ⟨3, 2⟩)).2
    s.evaluated.count unreadable = 1 ∧ s.evaluated.count fails = 2 ∧ s.evaluated.count reached = 1 ∧
      s.fetched = ["staff", "clearance"] := by
  intro rq unreadable fails reached ls s
  obtain ⟨-, hfetched, -, hexpressions⟩ := no_work_is_done_twice ⟨3, 2⟩ (ls.map rq.call)
  obtain ⟨hsession, -, hcount⟩ := hexpressions rq ls rfl
  have hroom : ls.eraseDups.length ≤ 3 := by decide
  have hasked : (ofCalls ⟨3, 2⟩ (ls.map rq.call)).asked.eraseDups = ["staff", "clearance"] := by
    decide +kernel
  have hdenied : rq.plainVerdict unreadable = .ok false := by rfl
  have hfailed : rq.plainVerdict fails
      = .error (.unsupported (.ordering "clearance" .lt (.text "secret"))) := by rfl
  have hadmitted : rq.plainVerdict reached = .ok true := by rfl
  rw [hsession] at hfetched hcount
  refine ⟨?_, ?_, ?_, ?_⟩
  · rw [hcount hroom unreadable (by simp [ls]), hdenied]
    rfl
  · rw [hcount hroom fails (by simp [ls]), hfailed]
    rfl
  · rw [hcount hroom reached (by simp [ls]), hadmitted]
    rfl
  · rw [hfetched (by rw [hasked]; decide), hasked]

end Trace
end Clearance
