import Clearance.Configuration
import Clearance.Proofs.Filter.Usage
import Clearance.Proofs.Label.Validation

/-!
# Labels that can be read are never reported

A label that cannot be read denies, and this is reported. As long as all labels can be read that are
recorded for triples, and the label that stands in for an empty list, a filter never comes to make
such a report, whatever it is asked and whatever its caches hold.

## Main definitions

* `Clearance.Session.Quiet` — sessions without such a report.
* `Clearance.Request.Harmless` — computations that leave sessions without such a report.

## Main results

* `Clearance.Request.harmless_verdict` — verdicts on labels that can be read.
* `Clearance.Filter.quiet_after` — filters whose labels can be read.
* `Clearance.Configuration.isReadable_effective` — the label that stands in for an empty list.
-/

namespace Clearance

/-- Whether no label was reported that cannot be read. -/
def Session.Quiet (s : Session) : Prop := ∀ l fault, .labelUnreadable l fault ∉ s.events

theorem Session.quiet_start (sizes : SessionSizes) : (Session.start sizes).Quiet := fun _ _ => nofun

namespace Request

variable {α β : Type} {l : Label} {ls : List Label}

/-- A computation that makes no report of labels that cannot be read, and does not fail because of
one. -/
def Harmless (x : SessionM α) : Prop :=
  ∀ s : Session, s.Quiet → (x.run.run s).2.Quiet ∧
    ∀ fault, (x.run.run s).1 ≠ .error (.malformed fault)

theorem harmless_pure (a : α) : Harmless (pure a) := fun _ hs => ⟨hs, nofun⟩

theorem harmless_throw {e : Error} (h : ∀ fault, e ≠ .malformed fault) :
    Harmless (throw e : SessionM α) :=
  fun _ hs => ⟨hs, fun fault heq => h fault (Except.error.inj heq)⟩

theorem harmless_lift {x : StateM Session α} (h : ∀ s : Session, s.Quiet → (x.run s).2.Quiet) :
    Harmless (liftM x) := fun s hs => ⟨h s hs, nofun⟩

theorem Harmless.bind {x : SessionM α} {k : α → SessionM β} (hx : Harmless x)
    (hk : ∀ a, Harmless (k a)) : Harmless (x >>= k) := by
  intro s hs
  obtain ⟨hquiet, herror⟩ := hx s hs
  rcases h : x.run.run s with ⟨e | a, s'⟩
  · rw [h] at hquiet herror
    rw [run_bind_error h]
    exact ⟨hquiet, fun fault heq => herror fault (congrArg _ (Except.error.inj heq))⟩
  · rw [h] at hquiet
    rw [run_bind_ok h]
    exact hk a s' hquiet

/-- Only failures of other kinds reach what is done when a harmless computation fails. -/
theorem Harmless.tryCatch {x : SessionM α} {handle : Error → SessionM α} (hx : Harmless x)
    (hhandle : ∀ e, (∀ fault, e ≠ .malformed fault) → Harmless (handle e)) :
    Harmless (tryCatch x handle) := by
  intro s hs
  obtain ⟨hquiet, herror⟩ := hx s hs
  rw [ExceptT.run_tryCatch, StateT.run_bind]
  rcases h : x.run.run s with ⟨e | a, s'⟩
  · rw [h] at hquiet herror
    exact hhandle e (fun fault heq => herror fault (congrArg Except.error heq)) s' hquiet
  · rw [h] at hquiet herror
    exact ⟨hquiet, herror⟩

theorem harmless_report {e : Event} (h : ∀ l fault, .labelUnreadable l fault ≠ e) :
    Harmless (report e) := by
  intro s hs
  refine ⟨fun l fault hmem => ?_, nofun⟩
  rcases List.mem_append.1 hmem with hmem | hmem
  · exact hs l fault hmem
  · exact h l fault (List.mem_singleton.1 hmem)

variable (rq : Request)

theorem harmless_note {e : Event} (h : ∀ l fault, .labelUnreadable l fault ≠ e) :
    Harmless (rq.note e) := by
  unfold note
  split
  · exact harmless_report h
  · exact harmless_pure _

/-! ### Expressions -/

theorem harmless_values (a : Attribute) : Harmless (liftM (rq.requester.values a)) :=
  harmless_lift fun _ hs => hs

theorem harmless_hierarchy (a : Attribute) : Harmless (liftM (rq.hierarchy a)) := by
  refine harmless_lift fun s hs => ?_
  rw [run_hierarchy]
  rcases s.hierarchies.get a with ⟨_ | h?, cache⟩
  · exact hs
  · exact hs

theorem related_harmless :
    Requester.Related (fun x _ => Harmless x) rq.requester rq.requester where
  pure _ := harmless_pure _
  ordering _ _ _ := harmless_throw fun _ => nofun
  bind hx hf := hx.bind hf
  values a := harmless_values rq a
  hierarchy a := harmless_hierarchy rq a

/-- Evaluating an expression never fails as reading a label may. -/
theorem harmless_evaluate (e : Expr) : Harmless (e.evaluate rq.requester) :=
  rq.related_harmless.evaluate e

/-! ### Verdicts -/

/-- **A label that can be read is judged without a report** that it cannot. -/
theorem harmless_verdict (hl : l.IsReadable) : Harmless (rq.verdict l) := by
  obtain ⟨e, he⟩ := hl
  have hevaluate : l.evaluate rq.requester = e.evaluate rq.requester := by
    simp only [Label.evaluate, he]
  intro s hs
  unfold verdict verdictBy
  rw [run_get_bind, hevaluate]
  rcases s.verdicts.get l with ⟨_ | v, cache⟩
  · rw [run_set_bind]
    have hrest (v : Bool) : Harmless (do
        rq.note (.labelEvaluated l v)
        modify fun s => { s with verdicts := s.verdicts.insert l v }
        return v) :=
      (rq.harmless_note (by simp)).bind fun _ =>
        Harmless.bind (fun s hs => ⟨hs, fun fault h => by cases h⟩) fun _ => harmless_pure v
    refine ((rq.harmless_evaluate e).tryCatch fun err herr => ?_).bind hrest _ hs
    cases err with
    | malformed fault => exact absurd rfl (herr fault)
    | _ => exact harmless_throw herr
  · exact harmless_pure v _ hs

theorem harmless_firstDenial : ∀ {ls : List Label}, (∀ l ∈ ls, l.IsReadable) →
    Harmless (rq.firstDenial ls)
  | [], _ => harmless_pure _
  | l :: ls, hls => by
    refine (rq.harmless_verdict (hls l List.mem_cons_self)).bind fun v => ?_
    cases v with
    | true => exact harmless_firstDenial fun l hl => hls l (List.mem_cons_of_mem _ hl)
    | false => exact harmless_pure _

end Request

/-! ### Filters -/

namespace Filter

variable {σ : Type} {stable : σ → Prop} {f : Filter (StateM σ)}

/-- A list of labels that can all be read is judged without a report that one cannot. -/
theorem harmless_judge (rq : Request) (p : Policy) (t : Triple) {recorded : Option (List Label)}
    (h : ∀ ls, recorded = some ls → ∀ l ∈ p.effective ls, l.IsReadable) :
    Request.Harmless (judge rq p t recorded) := by
  cases recorded with
  | none => exact (rq.harmless_note (by simp)).bind fun _ => Request.harmless_pure _
  | some ls =>
    refine (rq.harmless_firstDenial (h ls rfl)).bind fun denial? => ?_
    cases denial? with
    | none => exact (rq.harmless_note (by simp)).bind fun _ => Request.harmless_pure _
    | some l => exact (rq.harmless_note (by simp)).bind fun _ => Request.harmless_pure _

/-- Whether a session is without a report and the source of labels is as it should be. -/
def Untroubled (stable : σ → Prop) (s : Session × σ) : Prop := s.1.Quiet ∧ stable s.2

variable (hlabels : ∀ t, Keeps stable (f.labels? t) fun recorded =>
  ∀ ls, recorded = some ls → ∀ l ∈ f.policy.effective ls, l.IsReadable)

include hlabels

theorem keeps_admits (t : Triple) :
    Keeps (Untroubled stable) (merged (f.admits t)) fun _ => True := by
  rw [admits, merged_bind]
  refine Keeps.bind (Q := fun recorded => ∀ ls, recorded = some ls →
    ∀ l ∈ f.policy.effective ls, l.IsReadable) ?_ fun recorded hrecorded => ?_
  · rintro ⟨session, s⟩ ⟨hsession, hs⟩
    obtain ⟨hstate, hanswer⟩ := hlabels t s hs
    exact ⟨⟨hsession, hstate⟩, hanswer⟩
  · rintro ⟨session, s⟩ ⟨hsession, hs⟩
    obtain ⟨hquiet, -⟩ := harmless_judge f.request f.policy t hrecorded session hsession
    exact ⟨⟨hquiet, hs⟩, fun _ _ => trivial⟩

/-- **A filter whose labels can all be read never reports** one that cannot. -/
theorem quiet_after (calls : List Call) {s : Session × σ} (hs : Untroubled stable s) :
    Untroubled stable (f.after calls s) :=
  kept_after (keeps_admits hlabels) calls hs

end Filter

/-! ### Configurations -/

/-- **The labels by which a triple is judged can be read** if those can be read that are recorded
for it, and the policy is that of a configuration that was accepted. -/
theorem Configuration.isReadable_effective {text : String} {c : Configuration}
    (hc : Configuration.parse text = .ok c) {ls : List Label} (hls : ∀ l ∈ ls, l.IsReadable) :
    ∀ l ∈ c.policy.effective ls, l.IsReadable := by
  cases ls with
  | cons l ls => exact hls
  | nil =>
    have hvalidate : c.validate = .ok () := by
      unfold Configuration.parse at hc
      split at hc
      · cases hc
      · next c' _ =>
        cases hvalid : c'.validate with
        | error e =>
          rw [hvalid] at hc
          cases hc
        | ok u =>
          rw [hvalid] at hc
          cases hc
          exact hvalid
    refine List.forall_mem_singleton.2 ?_
    unfold Configuration.validate at hvalidate
    cases hdefault : c.defaultLabel with
    | none =>
      have hdeny : Label.deny.parse = .ok .deny := by rfl
      rw [Configuration.policy, hdefault]
      exact ⟨_, hdeny⟩
    | some text =>
      rw [Configuration.policy, hdefault]
      rw [hdefault] at hvalidate
      dsimp only at hvalidate
      cases hparse : (Label.ofText text).parse with
      | error fault =>
        rw [hparse] at hvalidate
        cases hvalidate
      | ok e => exact ⟨e, hparse⟩

end Clearance
