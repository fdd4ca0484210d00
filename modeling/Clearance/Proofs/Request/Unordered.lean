import Clearance.Proofs.Hierarchy
import Clearance.Proofs.Request.Session

/-!
# Expressions without orderings

The atoms of an expression are the attributes in it, each with the comparison that may follow it.
Only atoms look at the requester, and only the comparisons `<`, `<=`, `>` and `>=` fail. So an
expression without them always has a value; and since conjunctions and disjunctions turn no truth
into falsehood, what is true of one request is true of another if that is so of every atom,
whichever operands either evaluation gets to see.

## Main definitions

* `Clearance.Expr.EveryAtom` — properties of all atoms of an expression.
* `Clearance.Expr.Unordered` — expressions without orderings.

## Main results

* `Clearance.Request.exists_plainValue` — expressions without orderings have a value.
* `Clearance.Request.plainValue_mono` — truth carries over from the atoms to the expression.
-/

namespace Clearance

open Grammar

namespace Expr

variable {p q : Attribute → Option (Operator × Value) → Prop}

/-- Whether all atoms of an expression have a property. An atom is an attribute, and the comparison
with a constant that may follow it. -/
def EveryAtom (p : Attribute → Option (Operator × Value) → Prop) : Expr → Prop
  | .allow => True
  | .deny => True
  | .holds a => p a none
  | .relation a op v => p a (some (op, v))
  | .and e f => e.EveryAtom p ∧ f.EveryAtom p
  | .or e f => e.EveryAtom p ∧ f.EveryAtom p
  | .bracket e => e.EveryAtom p

theorem EveryAtom.imp (h : ∀ a tail, p a tail → q a tail) :
    ∀ {e : Expr}, e.EveryAtom p → e.EveryAtom q
  | .allow, he => he
  | .deny, he => he
  | .holds a, he => h a none he
  | .relation a op v, he => h a (some (op, v)) he
  | .and _ _, he => ⟨EveryAtom.imp h he.1, EveryAtom.imp h he.2⟩
  | .or _ _, he => ⟨EveryAtom.imp h he.1, EveryAtom.imp h he.2⟩
  | .bracket e, he => EveryAtom.imp (e := e) h he

theorem EveryAtom.and : ∀ {e : Expr}, e.EveryAtom p → e.EveryAtom q →
    e.EveryAtom fun a tail => p a tail ∧ q a tail
  | .allow, he, _ => he
  | .deny, he, _ => he
  | .holds _, hp, hq => ⟨hp, hq⟩
  | .relation _ _ _, hp, hq => ⟨hp, hq⟩
  | .and _ _, hp, hq => ⟨hp.1.and hq.1, hp.2.and hq.2⟩
  | .or _ _, hp, hq => ⟨hp.1.and hq.1, hp.2.and hq.2⟩
  | .bracket e, hp, hq => EveryAtom.and (e := e) hp hq

/-- Whether an expression compares by equality and difference only. -/
def Unordered (e : Expr) : Prop := e.EveryAtom fun _ tail =>
  ∀ op v, tail = some (op, v) → op = .eq ∨ op = .ne

end Expr

namespace Request

variable {rq rq' : Request} {e : Expr} {a : Attribute} {v : Value}

/-! ### Atoms -/

theorem plainValue_holds_iff :
    rq.plainValue (.holds a) = .ok true ↔ .flag true ∈ rq.attributes.get a := by
  show Except.ok ((rq.attributes.get a).contains (.flag true)) = _ ↔ _
  simp

/-- A constant is reached by itself, or by a value above it. -/
theorem plainValue_eq_iff : rq.plainValue (.relation a .eq v) = .ok true ↔
    v ∈ rq.attributes.get a ∨
      ∃ h, rq.hierarchy? a = some h ∧ ∃ w ∈ rq.attributes.get a, h.reaches v w = true := by
  rw [plainValue_eq]
  cases hheld : rq.attributes.get a with
  | nil => simp
  | cons w ws =>
    by_cases hv : v ∈ w :: ws
    · simp [hv]
    · cases rq.hierarchy? a <;> simp_all

theorem plainValue_ne_iff :
    rq.plainValue (.relation a .ne v) = .ok true ↔ ∃ w ∈ rq.attributes.get a, w ≠ v := by
  show Except.ok ((rq.attributes.get a).any fun w => w ≠ v) = _ ↔ _
  simp

/-! ### Expressions -/

/-- **An expression without orderings has a value.** -/
theorem exists_plainValue (rq : Request) : ∀ {e : Expr}, e.Unordered → ∃ b, rq.plainValue e = .ok b
  | .allow, _ => ⟨_, rfl⟩
  | .deny, _ => ⟨_, rfl⟩
  | .holds _, _ => ⟨_, rfl⟩
  | .relation a op v, he => by
    rcases he op v rfl with rfl | rfl
    · rw [plainValue_eq]
      split
      · exact ⟨_, rfl⟩
      split
      · exact ⟨_, rfl⟩
      split <;> exact ⟨_, rfl⟩
    · exact ⟨_, rfl⟩
  | .and e f, he => by
    obtain ⟨b, hb⟩ := exists_plainValue rq (e := e) he.1
    rw [plainValue_and, hb]
    cases b with
    | true => exact exists_plainValue rq (e := f) he.2
    | false => exact ⟨false, rfl⟩
  | .or e f, he => by
    obtain ⟨b, hb⟩ := exists_plainValue rq (e := e) he.1
    rw [plainValue_or, hb]
    cases b with
    | true => exact ⟨true, rfl⟩
    | false => exact exists_plainValue rq (e := f) he.2
  | .bracket e, he => exists_plainValue rq (e := e) he

theorem plainValue_and_iff {e f : Expr} : rq.plainValue (.and e f) = .ok true ↔
    rq.plainValue e = .ok true ∧ rq.plainValue f = .ok true := by
  rw [plainValue_and]
  rcases rq.plainValue e with err | _ | _ <;> simp [Except.bind]

theorem plainValue_or_iff {e f : Expr} (he : e.Unordered) : rq.plainValue (.or e f) = .ok true ↔
    rq.plainValue e = .ok true ∨ rq.plainValue f = .ok true := by
  rw [plainValue_or]
  obtain ⟨b, hb⟩ := rq.exists_plainValue he
  rw [hb]
  cases b <;> simp [Except.bind]

/-- **What is true of one request is true of another if that is so of its atoms**, where no atom
fails. -/
theorem plainValue_mono : ∀ {e : Expr}, e.Unordered →
    e.EveryAtom (fun a tail => rq.plainValue (relationOf a tail) = .ok true →
      rq'.plainValue (relationOf a tail) = .ok true) →
    rq.plainValue e = .ok true → rq'.plainValue e = .ok true
  | .allow, _, _, _ => rfl
  | .deny, _, _, h => by cases h
  | .holds _, _, hatoms, h => hatoms h
  | .relation _ _ _, _, hatoms, h => hatoms h
  | .and e f, he, hatoms, h => by
    obtain ⟨hleft, hright⟩ := plainValue_and_iff.1 h
    exact plainValue_and_iff.2
      ⟨plainValue_mono he.1 hatoms.1 hleft, plainValue_mono he.2 hatoms.2 hright⟩
  | .or e f, he, hatoms, h => by
    refine (plainValue_or_iff he.1).2 (((plainValue_or_iff he.1).1 h).imp ?_ ?_)
    · exact plainValue_mono he.1 hatoms.1
    · exact plainValue_mono he.2 hatoms.2
  | .bracket e, he, hatoms, h => plainValue_mono (e := e) he hatoms h

end Request

end Clearance
