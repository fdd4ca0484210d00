import Clearance.Proofs.BoundedCache.Contents
import Clearance.Proofs.Evaluation
import Clearance.Proofs.Steady
import Clearance.Request

/-!
# Sessions do not show in verdicts

A session is *sound* for a request when every verdict that it keeps is the one that the label gets
without any session, and every hierarchy that it keeps is the one that would be fetched. Sessions
begin sound and stay so, and in a sound session a label gets the verdict that it gets without one. A
label that cannot be read gets the verdict false, whether its verdict is kept or not.

## Main definitions

* `Clearance.Request.plain` — the requester of a request, without a session.
* `Clearance.Request.plainVerdict` — the verdict on a label, without a session.
* `Clearance.Session.Sound` — sound sessions.

## Main results

* `Clearance.Request.steady_evaluate`, `Clearance.Request.steady_verdict` — in sound sessions
  expressions and labels are judged as without a session.
-/

namespace Clearance

namespace Request

/-- The requester of a request when nothing is kept in a session. -/
def plain (rq : Request) : Requester Id := .fixed rq.attributes.get rq.hierarchy?

/-- The value of an expression for a request, without a session. -/
def plainValue (rq : Request) (e : Expr) : Except Error Bool := Id.run (e.evaluate rq.plain).run

/-- The verdict on a label without a session. A label that cannot be read denies. -/
def plainVerdict (rq : Request) (l : Label) : Except Error Bool :=
  match l.parse with
  | .ok e => rq.plainValue e
  | .error _ => .ok false

end Request

/-- A session that only keeps what would be found out again. -/
structure Session.Sound (rq : Request) (s : Session) : Prop where
  verdicts : s.verdicts.Throughout fun l v => rq.plainVerdict l = .ok v
  hierarchies : s.hierarchies.Throughout fun a h? => rq.hierarchy? a = h?

namespace Request

theorem sound_start (rq : Request) (sizes : SessionSizes) : (Session.start sizes).Sound rq where
  verdicts := BoundedCache.throughout_of_slots_eq_nil rfl
  hierarchies := BoundedCache.throughout_of_slots_eq_nil rfl

variable (rq : Request)

theorem steady_report (e : Event) : Steady (Session.Sound rq) (report e).run (.ok ⟨⟩) :=
  fun _ hs => ⟨rfl, hs.verdicts, hs.hierarchies⟩

theorem steady_note (e : Event) : Steady (Session.Sound rq) (rq.note e).run (.ok ⟨⟩) := by
  unfold note
  split
  · exact steady_report rq e
  · exact steady_pure _

theorem run_hierarchy (a : Attribute) (s : Session) :
    (rq.hierarchy a).run s = match s.hierarchies.get a with
      | (some h?, hierarchies) => (h?, { s with hierarchies })
      | (none, hierarchies) => (rq.hierarchy? a, { s with
          hierarchies := hierarchies.insert a (rq.hierarchy? a),
          fetched := s.fetched ++ [a] }) := by
  unfold hierarchy
  cases h : s.hierarchies.get a with
  | mk found cache => cases found <;> simp [h] <;> rfl

theorem steady_hierarchy (a : Attribute) :
    Steady (Session.Sound rq) (rq.hierarchy a) (rq.hierarchy? a) := by
  intro s hs
  have hget := hs.hierarchies.get a
  have hfst := s.hierarchies.get_fst a
  rw [run_hierarchy]
  cases h : s.hierarchies.get a with
  | mk found cache =>
    rw [h] at hget hfst
    cases found with
    | some h? => exact ⟨(hs.hierarchies.of_find? hfst.symm).symm, hs.verdicts, hget⟩
    | none => exact ⟨rfl, hs.verdicts, hget.insert rfl⟩

/-! ### Expressions -/

theorem related_plain :
    Requester.Related (fun x y => Steady (Session.Sound rq) x.run y.run) rq.requester rq.plain where
  pure _ := steady_pure _
  ordering _ _ _ := steady_pure _
  bind hx hf := hx.bind_except fun a _ => hf a
  values _ := (steady_pure _).lift
  hierarchy a := (steady_hierarchy rq a).lift

theorem steady_evaluate (e : Expr) :
    Steady (Session.Sound rq) (e.evaluate rq.requester).run (e.evaluate rq.plain).run :=
  rq.related_plain.evaluate e

/-! ### Verdicts -/

theorem plainValue_and (e f : Expr) : rq.plainValue (.and e f) =
    (rq.plainValue e).bind fun v => if v then rq.plainValue f else .ok false := by
  rw [plainValue, Expr.evaluate, ExceptT.run_bind]
  change Id.run (_ >>= _) = Except.bind (Id.run (e.evaluate rq.plain).run) _
  cases (e.evaluate rq.plain).run with
  | error err => rfl
  | ok v => cases v <;> rfl

theorem plainValue_or (e f : Expr) : rq.plainValue (.or e f) =
    (rq.plainValue e).bind fun v => if v then .ok true else rq.plainValue f := by
  rw [plainValue, Expr.evaluate, ExceptT.run_bind]
  change Id.run (_ >>= _) = Except.bind (Id.run (e.evaluate rq.plain).run) _
  cases (e.evaluate rq.plain).run with
  | error err => rfl
  | ok v => cases v <;> rfl

theorem plainValue_eq (a : Attribute) (v : Value) : rq.plainValue (.relation a .eq v) =
    if (rq.attributes.get a).isEmpty then .ok false
    else if (rq.attributes.get a).contains v then .ok true
    else match rq.hierarchy? a with
      | none => .ok false
      | some h => .ok ((rq.attributes.get a).any fun w => h.reaches v w) := by
  rfl

/-- An expression whose evaluation fails has an ordering in it that was reached. -/
theorem plainValue_error : ∀ {e : Expr} {err : Error}, rq.plainValue e = .error err →
    ∃ a op v, err = .unsupported (.ordering a op v)
  | .allow, _, h => by cases h
  | .deny, _, h => by cases h
  | .holds _, _, h => by cases h
  | .relation a op v, err, h => by
    cases op with
    | eq =>
      rw [plainValue_eq] at h
      split at h
      · cases h
      split at h
      · cases h
      split at h <;> cases h
    | ne => cases h
    | lt => exact ⟨a, _, v, (Except.error.inj h).symm⟩
    | le => exact ⟨a, _, v, (Except.error.inj h).symm⟩
    | gt => exact ⟨a, _, v, (Except.error.inj h).symm⟩
    | ge => exact ⟨a, _, v, (Except.error.inj h).symm⟩
  | .and e f, err, h => by
    rw [plainValue_and] at h
    cases he : rq.plainValue e with
    | error err' =>
      rw [he] at h
      exact plainValue_error (he.trans h)
    | ok v =>
      rw [he] at h
      cases v with
      | true => exact plainValue_error (e := f) h
      | false => cases h
  | .or e f, err, h => by
    rw [plainValue_or] at h
    cases he : rq.plainValue e with
    | error err' =>
      rw [he] at h
      exact plainValue_error (he.trans h)
    | ok v =>
      rw [he] at h
      cases v with
      | true => cases h
      | false => exact plainValue_error (e := f) h
  | .bracket e, err, h => plainValue_error (e := e) h

theorem steady_evaluateLabel (l : Label) :
    Steady (Session.Sound rq) (tryCatch (l.evaluate rq.requester) fun
      | .malformed fault => do
        report (.labelUnreadable l fault)
        return false
      | e => throw e : SessionM Bool).run (rq.plainVerdict l) := by
  cases hl : l.parse with
  | error fault =>
    have hv : rq.plainVerdict l = .ok false := by simp only [plainVerdict, hl]
    have hthrow : l.evaluate rq.requester = throw (.malformed fault) := by
      simp only [Label.evaluate, hl]
    rw [hv, hthrow]
    refine Steady.tryCatch_error (steady_pure _) ?_
    exact (steady_report rq _).bind_except (y := (pure () : ExceptT Error Id Unit))
      (l := fun _ => pure false) fun _ _ => steady_pure _
  | ok e =>
    have hv : rq.plainVerdict l = rq.plainValue e := by simp only [plainVerdict, hl]
    have heval : l.evaluate rq.requester = e.evaluate rq.requester := by
      simp only [Label.evaluate, hl]
    rw [hv, heval]
    have he : Steady (Session.Sound rq) (e.evaluate rq.requester).run (rq.plainValue e) :=
      steady_evaluate rq e
    cases h : rq.plainValue e with
    | ok v =>
      rw [h] at he
      exact he.tryCatch_ok _
    | error err =>
      obtain ⟨a, op, v, rfl⟩ := plainValue_error rq h
      rw [h] at he
      exact he.tryCatch_error (steady_pure _)

theorem steady_verdict (l : Label) :
    Steady (Session.Sound rq) (rq.verdict l).run (rq.plainVerdict l) := by
  intro s hs
  have hget := hs.verdicts.get l
  have hfst := s.verdicts.get_fst l
  unfold verdict verdictBy
  rw [run_get_bind]
  cases h : s.verdicts.get l with
  | mk found cache =>
    rw [h] at hget hfst
    cases found with
    | some v => exact ⟨(hs.verdicts.of_find? hfst.symm).symm, hget, hs.hierarchies⟩
    | none =>
      rw [run_set_bind]
      have hspec : (ExceptT.mk (rq.plainVerdict l) >>= pure : ExceptT Error Id Bool).run =
          rq.plainVerdict l := by
        rw [bind_pure]
        rfl
      rw [← hspec]
      refine (steady_evaluateLabel rq l).bind_except (fun v hv => ?_) _ ⟨hget, hs.hierarchies⟩
      refine (steady_note rq _).bind_except (y := (pure () : ExceptT Error Id Unit))
        (l := fun _ => pure v) fun _ _ => ?_
      exact fun s hs => ⟨rfl, hs.verdicts.insert hv, hs.hierarchies⟩

end Request

end Clearance
