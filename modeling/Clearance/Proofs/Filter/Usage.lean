import Clearance.Proofs.Filter.Decision

/-!
# Filters in use

A filter in use has caches of some size, and has answered some calls. Its session is sound whatever
the source of labels does in the meantime: the labels recorded for a triple may change from call to
call. So the answer on a triple is at any time the decision on what is recorded for it then, and two
filters in use can be compared by the labels that they see.

## Main definitions

* `Clearance.Filter.Usage` — the uses of a filter.
* `Clearance.Filter.recorded`, `Clearance.Filter.test` — what a filter in use sees recorded for a
  triple, and its answer.
* `Clearance.Filter.JudgesBy` — the labels that decide on a triple.

## Main results

* `Clearance.Filter.test_eq` — the answer of a filter in use.
* `Clearance.Filter.test_mono` — one filter admits what another admits if that is so of the labels.
-/

namespace Clearance.Filter

variable {σ σ' : Type} {f : Filter (StateM σ)} {g : Filter (StateM σ')} {t : Triple}

/-- How a filter has been used: the sizes of its caches, the state of the source of labels at first,
and the calls since then. -/
structure Usage (σ : Type) where
  sizes : SessionSizes
  source : σ
  calls : List Call

/-- The state of a filter in use. -/
def state (f : Filter (StateM σ)) (u : Usage σ) : Session × σ :=
  f.after u.calls (.start u.sizes, u.source)

/-- What a filter in use sees recorded for a triple. -/
def recorded (f : Filter (StateM σ)) (u : Usage σ) (t : Triple) :
    Except Error (Option (List Label)) :=
  ((f.labels? t).run.run (f.state u).2).1

/-- The answer of a filter in use on a triple. -/
def test (f : Filter (StateM σ)) (u : Usage σ) (t : Triple) : Except Error Bool :=
  ((merged (f.admits t)).run.run (f.state u)).1

/-- The labels that decide on a triple: those that the policy makes of the recorded ones. -/
def JudgesBy (f : Filter (StateM σ)) (u : Usage σ) (t : Triple) (l : Label) : Prop :=
  ∃ ls, f.recorded u t = .ok (some ls) ∧ l ∈ f.policy.effective ls

theorem judgesBy_iff {u : Usage σ} {l : Label} {ls : List Label}
    (h : f.recorded u t = .ok (some ls)) : f.JudgesBy u t l ↔ l ∈ f.policy.effective ls := by
  simp [JudgesBy, h]

theorem sound_state (f : Filter (StateM σ)) (u : Usage σ) : (f.state u).1.Sound f.request := by
  have hadmits : ∀ t, Keeps (fun s : Session × σ => s.1.Sound f.request) (merged (f.admits t))
      fun _ => True := by
    rintro t ⟨session, s⟩ hsession
    obtain ⟨session', hsession', hrun⟩ := run_admits hsession s t
    rw [hrun]
    exact ⟨hsession', fun _ _ => trivial⟩
  exact kept_after hadmits u.calls (f.request.sound_start u.sizes)

/-- **A filter in use decides on what is recorded**, whatever it was asked before. -/
theorem test_eq (f : Filter (StateM σ)) (u : Usage σ) (t : Triple) :
    f.test u t = f.plainDecision (f.recorded u t) := by
  obtain ⟨session', -, hrun⟩ := run_admits (f.sound_state u) (f.state u).2 t
  exact congrArg Prod.fst hrun

/-- **A filter admits what another one admits** under the same policy and for the same labels, if
each of these labels admits the one requester when it admits the other. -/
theorem test_mono {u : Usage σ} {v : Usage σ'} (hpolicy : g.policy = f.policy)
    (hrecorded : g.recorded v t = f.recorded u t)
    (hlabels : ∀ l, f.JudgesBy u t l → f.request.Admits l → g.request.Admits l)
    (h : f.test u t = .ok true) : g.test v t = .ok true := by
  rw [test_eq] at h ⊢
  rcases hknown : f.recorded u t with err | _ | ls
  · rw [hknown] at h
    cases h
  · rw [hknown] at h
    rwa [hrecorded, hknown, plainDecision, hpolicy]
  · have hadmits : ∀ l ∈ f.policy.effective ls, f.request.Admits l :=
      ((decided_plain f (f.recorded u)).visible hknown).1 h
    refine ((decided_plain g (g.recorded v)).visible (hrecorded.trans hknown)).2 fun l hl => ?_
    rw [hpolicy] at hl
    exact hlabels l ((judgesBy_iff hknown).2 hl) (hadmits l hl)

end Clearance.Filter
