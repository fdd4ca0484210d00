import Clearance.Proofs.Request.Session

/-!
# The caches of a session are invisible

Labels are judged one after the other in one session. The verdicts are those that the labels get
without any session, whatever the sizes of its caches are and whatever was judged before: a
hierarchy that was kept when a label was evaluated, be it that the evaluation failed, is the one
that would be fetched again. A label whose evaluation fails leaves no verdict behind.

## Main definitions

* `Clearance.Request.verdicts` — the verdicts on a list of labels.

## Main results

* `Clearance.Request.caches_are_invisible`
-/

namespace Clearance.Request

variable (rq : Request)

/-- The verdicts on the labels of a list, one after the other. After a failure the next label is
judged all the same. -/
def verdicts (ls : List Label) : StateM Session (List (Except Error Bool)) :=
  ls.mapM fun l => (rq.verdict l).run

theorem verdicts_cons (l : Label) (ls : List Label) : rq.verdicts (l :: ls) = do
    let v ← (rq.verdict l).run
    let vs ← rq.verdicts ls
    return v :: vs := List.mapM_cons

theorem steady_verdicts : ∀ ls : List Label,
    Steady (Session.Sound rq) (rq.verdicts ls) (ls.map rq.plainVerdict)
  | [] => steady_pure _
  | l :: ls => by
    rw [verdicts_cons]
    refine (steady_verdict rq l).bind ?_
    exact (steady_verdicts ls).bind (steady_pure _)

/-- **The caches of a session are invisible.** Each label of a list gets the verdict that it gets
without a session. What is kept for a label is its verdict, and nothing is kept for a label that
fails. -/
theorem caches_are_invisible (sizes : SessionSizes) (ls : List Label) :
    ((rq.verdicts ls).run (.start sizes)).1 = ls.map rq.plainVerdict ∧
      (∀ l v, ((rq.verdicts ls).run (.start sizes)).2.verdicts.find? l = some v →
        rq.plainVerdict l = .ok v) ∧
      ∀ l err, rq.plainVerdict l = .error err →
        ((rq.verdicts ls).run (.start sizes)).2.verdicts.find? l = none := by
  obtain ⟨hanswers, hsound⟩ := rq.steady_verdicts ls (.start sizes) (rq.sound_start sizes)
  refine ⟨hanswers, fun l v hkept => hsound.verdicts.of_find? hkept, fun l err herr => ?_⟩
  rcases hkept : ((rq.verdicts ls).run (.start sizes)).2.verdicts.find? l with _ | v
  · rfl
  · have hverdict : rq.plainVerdict l = .ok v := hsound.verdicts.of_find? hkept
    rw [herr] at hverdict
    cases hverdict

/-- A session with room for one verdict and one hierarchy, in which a label fails twice, another
cannot be read, and verdicts make room for each other. -/
theorem caches_are_invisible_evicting :
    let rq : Request :=
      { attributes := .ofPairs [("clearance", .text "secret"), ("staff", .flag true)]
        hierarchy? := fun a =>
          if a = "clearance" then some ⟨"clearance", [.text "public", .text "secret"]⟩ else none }
    let fails : Label := .ofText "clearance = public & staff = yes | clearance < secret"
    let unreadable : Label := .ofText "staff &"
    let reached : Label := .ofText "clearance = public"
    let ls : List Label := [fails, reached, fails, unreadable, reached]
    let err : Error := .unsupported (.ordering "clearance" .lt (.text "secret"))
    let s : Session := ((rq.verdicts ls).run (.start ⟨1, 1⟩)).2
    ((rq.verdicts ls).run (.start ⟨1, 1⟩)).1
        = [.error err, .ok true, .error err, .ok false, .ok true] ∧
      rq.plainVerdict reached = .ok true ∧ s.verdicts.find? fails = none := by
  intro rq fails unreadable reached ls err s
  have hfailed : rq.plainVerdict fails = .error err := by rfl
  have hdenied : rq.plainVerdict unreadable = .ok false := by rfl
  have hreached : rq.plainVerdict reached = .ok true := by rfl
  obtain ⟨hanswers, hkept, hfails⟩ := rq.caches_are_invisible ⟨1, 1⟩ ls
  refine ⟨hanswers.trans ?_, hkept reached true (by decide +kernel), hfails fails err hfailed⟩
  simp only [ls, List.map_cons, List.map_nil, hfailed, hdenied, hreached]

end Clearance.Request
