import Clearance.Proofs.BoundedCache.Keys
import Clearance.Proofs.Request.Session

/-!
# Inquiries

An evaluation of a label asks a session for hierarchies, one after the other, and what it asks next
may depend on the answers. Taken by itself it is an *inquiry*: a tree that branches at each
question. Where the hierarchies would be fetched may be another place at each question. A session
that keeps all hierarchies that it has been asked for has fetched each of them once, also those of
attributes that have none, and goes on to do so in an inquiry as long as there is room. Expressions
are evaluated by inquiries.

## Main definitions

* `Clearance.Inquiry` — inquiries.
* `Clearance.Inquiry.run`, `Clearance.Inquiry.asked` — the run of an inquiry in a session, and what
  is asked for in it.
* `Clearance.Session.KeepsAll` — sessions that keep all hierarchies they have been asked for.

## Main results

* `Clearance.Session.KeepsAll.run` — the hierarchies that are fetched in an inquiry.
* `Clearance.Request.run_evaluate` — labels are evaluated by inquiries.
-/

namespace Clearance

/-- An evaluation that asks for hierarchies. -/
inductive Inquiry (α : Type) where
  /-- Nothing more is asked. -/
  | done (result : α)
  /-- The hierarchy of an attribute is asked for, which a request would fetch. -/
  | ask (rq : Request) (a : Attribute) (next : Option Hierarchy → Inquiry α)

namespace Inquiry

variable {α β : Type}

/-- An inquiry that goes on with the result of another one. -/
def bind : Inquiry α → (α → Inquiry β) → Inquiry β
  | .done a, f => f a
  | .ask rq a next, f => .ask rq a fun h? => (next h?).bind f

instance : Monad Inquiry where
  pure := done
  bind := bind

/-- The run of an inquiry in a session. -/
def run : Inquiry α → StateM Session α
  | .done a => pure a
  | .ask rq a next => do (next (← rq.hierarchy a)).run

/-- The attributes whose hierarchies are asked for when an inquiry is run in a session, in order. -/
def asked : Inquiry α → Session → List Attribute
  | .done _, _ => []
  | .ask rq a next, s => a :: (next ((rq.hierarchy a).run s).1).asked ((rq.hierarchy a).run s).2

theorem run_ask (rq : Request) (a : Attribute) (next : Option Hierarchy → Inquiry α) (s : Session) :
    (ask rq a next).run.run s
      = (next ((rq.hierarchy a).run s).1).run.run ((rq.hierarchy a).run s).2 :=
  rfl

theorem run_bind (i : Inquiry α) (f : α → Inquiry β) :
    (i >>= f).run = i.run >>= fun a => (f a).run := by
  change (i.bind f).run = _
  induction i with
  | done a => rfl
  | ask rq a next ih =>
    simp only [bind, run, bind_assoc]
    exact bind_congr fun h? => ih h?

end Inquiry

/-! ### Questions to a session -/

namespace Session

/-- A session that keeps the hierarchies that it has been asked for, and has fetched each of them
once. -/
structure KeepsAll (asked : List Attribute) (s : Session) : Prop where
  keys : s.hierarchies.keys = asked.eraseDups
  fetched : s.fetched = asked.eraseDups

variable {asked : List Attribute} {s : Session}

/-- What a question to a session does not touch. -/
theorem run_hierarchy_frame (rq : Request) (a : Attribute) (s : Session) :
    ((rq.hierarchy a).run s).2.verdicts = s.verdicts ∧
      ((rq.hierarchy a).run s).2.evaluated = s.evaluated ∧
      ((rq.hierarchy a).run s).2.hierarchies.capacity = s.hierarchies.capacity := by
  have hcapacity := s.hierarchies.capacity_get a
  rw [rq.run_hierarchy]
  rcases hget : s.hierarchies.get a with ⟨_ | h?, cache⟩
  · rw [hget] at hcapacity
    exact ⟨rfl, rfl, (BoundedCache.capacity_insert _ _ _).trans hcapacity⟩
  · rw [hget] at hcapacity
    exact ⟨rfl, rfl, hcapacity⟩

/-- A hierarchy is fetched the first time when it is asked for, and kept. -/
theorem KeepsAll.hierarchy (h : s.KeepsAll asked) (rq : Request) {a : Attribute}
    (hroom : (asked ++ [a]).eraseDups.length ≤ s.hierarchies.capacity) :
    ((rq.hierarchy a).run s).2.KeepsAll (asked ++ [a]) := by
  have hkeys := (s.hierarchies.keys_get a).trans h.keys
  have hfst := s.hierarchies.get_fst a
  rw [← s.hierarchies.capacity_get a] at hroom
  rw [rq.run_hierarchy]
  rcases hget : s.hierarchies.get a with ⟨_ | h?, cache⟩
  · rw [hget] at hkeys hfst hroom
    have hnew : a ∉ asked := by
      rw [← List.mem_eraseDups, ← h.keys]
      exact BoundedCache.find?_eq_none_iff.1 hfst.symm
    refine ⟨BoundedCache.keys_insert hkeys hroom _, ?_⟩
    rw [eraseDups_concat_of_not_mem hnew, ← h.fetched]
  · rw [hget] at hkeys hfst
    have hmem : a ∈ asked := by
      rw [← List.mem_eraseDups, ← h.keys]
      exact BoundedCache.mem_keys_of_find? hfst.symm
    refine ⟨?_, ?_⟩
    · rw [eraseDups_concat_of_mem hmem]
      exact hkeys
    · rw [eraseDups_concat_of_mem hmem]
      exact h.fetched

variable {α : Type}

/-- What an inquiry does not touch. -/
theorem run_inquiry_frame (i : Inquiry α) (s : Session) :
    (i.run.run s).2.verdicts = s.verdicts ∧ (i.run.run s).2.evaluated = s.evaluated ∧
      (i.run.run s).2.hierarchies.capacity = s.hierarchies.capacity := by
  induction i generalizing s with
  | done a => exact ⟨rfl, rfl, rfl⟩
  | ask rq a next ih =>
    obtain ⟨hverdicts, hevaluated, hcapacity⟩ := run_hierarchy_frame rq a s
    obtain ⟨hverdicts', hevaluated', hcapacity'⟩ := ih _ ((rq.hierarchy a).run s).2
    rw [Inquiry.run_ask]
    exact ⟨hverdicts'.trans hverdicts, hevaluated'.trans hevaluated, hcapacity'.trans hcapacity⟩

/-- **An inquiry fetches what has not been asked for before**, each hierarchy once, while there is
room. -/
theorem KeepsAll.run (h : s.KeepsAll asked) {i : Inquiry α}
    (hroom : (asked ++ i.asked s).eraseDups.length ≤ s.hierarchies.capacity) :
    (i.run.run s).2.KeepsAll (asked ++ i.asked s) := by
  induction i generalizing s asked with
  | done a =>
    rw [Inquiry.asked, List.append_nil]
    exact h
  | ask rq a next ih =>
    obtain ⟨-, -, hcapacity⟩ := run_hierarchy_frame rq a s
    rw [Inquiry.asked, List.append_cons] at hroom ⊢
    rw [Inquiry.run_ask]
    refine ih _ (h.hierarchy rq ?_) ?_
    · exact Nat.le_trans (length_eraseDups_le_of_subset (List.subset_append_left _ _)) hroom
    · rwa [hcapacity]

end Session

/-! ### Expressions -/

namespace Request

/-- The requester whose evaluations are inquiries. -/
def inquirer (rq : Request) : Requester Inquiry where
  values a := return rq.attributes.get a
  hierarchy a := .ask rq a .done

variable {α β : Type} (rq : Request)

/-- `Runs x y`: an inquiry that may fail is run as a computation in a session. -/
def Runs (x : ExceptT Error Inquiry α) (y : SessionM α) : Prop := x.run.run = y.run

theorem Runs.bind {x : ExceptT Error Inquiry α} {y : SessionM α} {f : α → ExceptT Error Inquiry β}
    {g : α → SessionM β} (hx : Runs x y) (hf : ∀ a, Runs (f a) (g a)) :
    Runs (x >>= f) (y >>= g) := by
  change (x.run >>= ExceptT.bindCont f).run = y.run >>= ExceptT.bindCont g
  rw [Inquiry.run_bind, hx]
  refine bind_congr fun r => ?_
  cases r with
  | ok a => exact hf a
  | error e => rfl

theorem related_inquirer : Requester.Related Runs rq.inquirer rq.requester where
  pure _ := rfl
  ordering _ _ _ := rfl
  bind := Runs.bind
  values _ := rfl
  hierarchy _ := rfl

/-- **Labels are evaluated by inquiries.** -/
theorem run_evaluate (l : Label) :
    ExceptT.mk (l.evaluate rq.inquirer).run.run = l.evaluate rq.requester := by
  unfold Label.evaluate
  cases l.parse with
  | ok e => exact rq.related_inquirer.evaluate e
  | error fault => rfl

end Request

end Clearance
