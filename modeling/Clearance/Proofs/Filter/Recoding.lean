import Clearance.NodeTable
import Clearance.Proofs.Codec.Records
import Clearance.Proofs.Distinct
import Clearance.Proofs.Filter.Decision
import Clearance.Proofs.Label.Validation

/-!
# Storing labels keeps what they decide

Labels come back from a store in UTF-8, and each at its first place only. They have the texts that
they had, so each says of a requester what it said before. A label that stands a second time, be it
only since it is in UTF-8, decides nothing: it admits the requester if the first one did, and
otherwise is not reached. So a triple is visible, hidden, or fails in the same way, whether it is
tested against the labels that were given or against those that come back.

## Main definitions

* `Clearance.Request.Reaches` — the sessions that a request can be in.

## Main results

* `Clearance.Request.plainDenial_stored` — the first label that does not admit a requester.
* `Clearance.Filter.storing_keeps_meaning` — texts, expressions and decisions.
-/

namespace Clearance

open EncodeM

namespace Request

variable (rq : Request) {a : Label} {ls : List Label}

/-! ### Labels that come back -/

/-- A label that comes back from a store gets the verdict that it got. -/
theorem plainVerdict_asUtf8 (l : Label) : rq.plainVerdict l.asUtf8 = rq.plainVerdict l := by
  rw [plainVerdict, plainVerdict, l.parse_asUtf8]

theorem plainDenial_map_asUtf8 : ∀ ls : List Label,
    rq.plainDenial (ls.map Label.asUtf8) = (rq.plainDenial ls).map (Option.map Label.asUtf8)
  | [] => rfl
  | l :: ls => by
    rw [List.map_cons, plainDenial, plainDenial, plainVerdict_asUtf8]
    cases rq.plainVerdict l with
    | error err => rfl
    | ok v =>
      cases v with
      | true => exact plainDenial_map_asUtf8 ls
      | false => rfl

/-- A label that admits the requester may be left out wherever it stands. -/
theorem plainDenial_filter (ha : rq.Admits a) (ls : List Label) :
    rq.plainDenial (ls.filter fun l => !l == a) = rq.plainDenial ls := by
  induction ls with
  | nil => rfl
  | cons l ls ih =>
    by_cases hl : l = a
    · subst hl
      rw [List.filter_cons_of_neg (by simp), ih, plainDenial, (rq.plainVerdict_true_iff).2 ha]
    · rw [List.filter_cons_of_pos (by simpa using hl), plainDenial, plainDenial, ih]

/-- **A label that stands a second time decides nothing.** -/
theorem plainDenial_eraseDups (ls : List Label) :
    rq.plainDenial ls.eraseDups = rq.plainDenial ls := by
  induction ls using eraseDups_induction with
  | nil => rfl
  | cons l ls ih =>
    rw [List.eraseDups_cons, plainDenial, plainDenial]
    cases hl : rq.plainVerdict l with
    | error err => rfl
    | ok v =>
      cases v with
      | true => exact ih.trans (rq.plainDenial_filter ((rq.plainVerdict_true_iff).1 hl) ls)
      | false => rfl

/-- **The first label that does not admit the requester** is the same among the labels that come
back from a store, in UTF-8 then. -/
theorem plainDenial_stored (ls : List Label) :
    rq.plainDenial (LabelList.stored ls) = (rq.plainDenial ls).map (Option.map Label.asUtf8) := by
  rw [LabelList.stored, plainDenial_eraseDups, plainDenial_map_asUtf8]

/-! ### Sessions -/

/-- The sessions of a request: its caches have any sizes, and labels were judged and triples tested
before. -/
inductive Reaches : Session → Prop where
  /-- The session at the beginning. -/
  | start (sizes : SessionSizes) : Reaches (.start sizes)
  /-- The session after a verdict, which may be a failure. -/
  | verdict {s : Session} (h : Reaches s) (l : Label) : Reaches ((rq.verdict l).run.run s).2
  /-- The session after the test of a triple, which may fail. -/
  | judge {s : Session} (h : Reaches s) (p : Policy) (x : Triple) (recorded : Option (List Label)) :
    Reaches ((Filter.judge rq p x recorded).run.run s).2

theorem Reaches.sound {s : Session} (h : rq.Reaches s) : s.Sound rq := by
  induction h with
  | start sizes => exact rq.sound_start sizes
  | @verdict s h l ih => exact (rq.steady_verdict l s ih).2
  | @judge s h p x recorded ih =>
    exact (Filter.steady_judge (m := Id) ⟨rq, p, fun _ => pure recorded⟩ x recorded s ih).2

end Request

namespace Filter

/-! ### Decisions -/

/-- **A triple is judged by the labels that come back as by those that were given.** An empty list
stays empty, so that the same label stands in for it. -/
theorem plainDecision_stored {m : Type → Type} (f : Filter m) (ls : List Label) :
    f.plainDecision (.ok (some (LabelList.stored ls))) = f.plainDecision (.ok (some ls)) := by
  cases ls with
  | nil => rfl
  | cons l ls =>
    have heffective :
        f.policy.effective (LabelList.stored (l :: ls)) = LabelList.stored (l :: ls) := by
      rw [LabelList.stored_cons]
      rfl
    rw [plainDecision, plainDecision, heffective, f.request.plainDenial_stored]
    show ((f.request.plainDenial (l :: ls)).map (Option.map Label.asUtf8)).map Option.isNone
      = (f.request.plainDenial (l :: ls)).map Option.isNone
    cases f.request.plainDenial (l :: ls) with
    | error err => rfl
    | ok l? => cases l? <;> rfl

/-- **Storing labels keeps their meaning.** A label in UTF-8 that is made of the bytes under which a
label is stored has its text and its expression. Every list of labels whose lengths fit their fields
can be written; what is read back from what was written decides on every triple like the list
itself: under any policy, for any requester and hierarchies, and in any two sessions that the
request may be in, the test of the triple has the same answer, or fails with the same error. The
first label that does not admit the requester is the same label, in UTF-8. -/
theorem storing_keeps_meaning :
    (∀ l : Label, l.asUtf8.chars = l.chars ∧ l.asUtf8.parse = l.parse) ∧
    ∀ ls : List Label,
      (∀ t : NodeTable, (∃ bs t', Appends (LabelList.encode ls) t () bs t') ↔ LabelList.Small ls) ∧
      ∀ (t t' : NodeTable) (bs : Bytes), Appends (LabelList.encode ls) t () bs t' →
        ∃ read, LabelList.decode bs = .ok read ∧
          (∀ (rq : Request) (s s' : Session), rq.Reaches s → rq.Reaches s' →
            ((rq.firstDenial read).run.run s').1
              = ((rq.firstDenial ls).run.run s).1.map (Option.map Label.asUtf8)) ∧
          ∀ (σ σ' : Type) (f : Filter (StateM σ)) (g : Filter (StateM σ')) (x : Triple) (c : σ)
            (c' : σ') (s s' : Session), g.request = f.request → g.policy = f.policy →
            ((f.labels? x).run.run c).1 = .ok (some ls) →
            ((g.labels? x).run.run c').1 = .ok (some read) →
            f.request.Reaches s → f.request.Reaches s' →
              ((merged (g.admits x)).run.run (s', c')).1
                = ((merged (f.admits x)).run.run (s, c)).1 := by
  refine ⟨fun l => ⟨l.chars_asUtf8, l.parse_asUtf8⟩,
    fun ls => ⟨fun t => ⟨?_, fun hsmall => ?_⟩, ?_⟩⟩
  · rintro ⟨bs, t', h⟩
    exact (LabelList.appends_encode_iff.1 h).1
  · exact ⟨_, _, LabelList.appends_encode_iff.2 ⟨hsmall, rfl, rfl⟩⟩
  intro t t' bs h
  obtain ⟨hsmall, rfl, -⟩ := LabelList.appends_encode_iff.1 h
  refine ⟨_, LabelList.decode_record hsmall, fun rq s s' hs hs' => ?_, ?_⟩
  · rw [(rq.steady_firstDenial _ s' hs'.sound).1, (rq.steady_firstDenial _ s hs.sound).1,
      rq.plainDenial_stored]
  · intro σ σ' f g x c c' s s' hrequest hpolicy hgiven hread hs hs'
    obtain ⟨after, -, hrun⟩ := run_admits hs.sound c x
    obtain ⟨after', -, hrun'⟩ := run_admits (f := g) (hrequest ▸ hs'.sound) c' x
    rw [hrun, hrun', hgiven, hread, ← f.plainDecision_stored ls]
    show g.plainDecision (.ok (some _)) = f.plainDecision (.ok (some _))
    rw [plainDecision, plainDecision, hrequest, hpolicy]

/-- A list with a label twice, first in UTF-8 and then in Latin-1, before one that fails. What is
read back has two labels. The test fails in the same way, the one time at the beginning, and the
other time after a verdict is kept. -/
theorem storing_keeps_meaning_repeated :
    let rq : Request :=
      { attributes := .ofPairs [("clearance", .text "secret"), ("staff", .flag true)]
        hierarchy? := fun a =>
          if a = "clearance" then some ⟨"clearance", [.text "public", .text "secret"]⟩ else none }
    let staff : Label := .ofText "staff"
    let ls : List Label := [staff, ⟨staff.bytes, .latin1⟩, .ofText "clearance < secret"]
    let x : Triple := ⟨.uri "s", .uri "p", .uri "o"⟩
    let f : Filter (StateM Unit) :=
      { request := rq, policy := {}, labels? := fun _ => pure (some ls) }
    let err : Error := .unsupported (.ordering "clearance" .lt (.text "secret"))
    Label.validate ls = .ok () ∧
    ∃ bs read, Appends (LabelList.encode ls) NodeTable.empty () bs NodeTable.empty ∧
      LabelList.decode bs = .ok read ∧ read.length = 2 ∧
      ((merged (f.admits x)).run.run (.start {}, ())).1 = .error err ∧
      ((merged ({ f with labels? := fun _ => pure (some read) }.admits x)).run.run
        (((rq.verdict staff).run.run (.start ⟨1, 1⟩)).2, ())).1 = .error err := by
  intro rq staff ls x f err
  have hsmall : LabelList.Small ls := ⟨by decide, by decide⟩
  have happends : Appends (LabelList.encode ls) NodeTable.empty () (LabelList.record ls)
      NodeTable.empty := LabelList.appends_encode_iff.2 ⟨hsmall, rfl, rfl⟩
  obtain ⟨read, hread, -, hsame⟩ := (storing_keeps_meaning.2 ls).2 _ _ _ happends
  have hstored : read = LabelList.stored ls :=
    Except.ok.inj (hread.symm.trans (LabelList.decode_record hsmall))
  have herr : ((merged (f.admits x)).run.run (.start {}, ())).1 = .error err := by
    obtain ⟨after, -, hrun⟩ := run_admits (f := f) (rq.sound_start {}) () x
    rw [hrun]
    show f.plainDecision (.ok (some ls)) = .error err
    rfl
  refine ⟨by rfl, _, read, happends, hread, ?_, herr, ?_⟩
  · rw [hstored]
    decide +kernel
  · exact (hsame Unit Unit f { f with labels? := fun _ => pure (some read) } x () () _ _ rfl rfl
      rfl rfl (.start {}) (.verdict (.start _) staff)).trans herr

end Filter

end Clearance
