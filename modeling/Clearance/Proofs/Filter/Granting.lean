import Clearance.Proofs.AttributeSet
import Clearance.Proofs.Filter.Usage
import Clearance.Proofs.Request.Unordered

/-!
# Granting more takes no access away

A requester is granted more by further values for attributes, and by hierarchies for attributes that
had none. Neither makes an expression false that was true, unless the expression orders values: a
value that is there stays there, a difference from a constant is found by any value other than it,
and a hierarchy that served before serves as it did. So what a requester may see, a requester who is
granted more may see as well.

## Main definitions

* `Clearance.Request.Extends` — requests that grant more.

## Main results

* `Clearance.Filter.granting_keeps_access` — expressions and filters.
-/

namespace Clearance

namespace Request

/-- `rq.Extends rq'`: the request `rq'` grants all that `rq` grants. -/
structure Extends (rq rq' : Request) : Prop where
  /-- Every value is held as before. -/
  held : ∀ a, rq.attributes.get a ⊆ rq'.attributes.get a
  /-- Every attribute with a hierarchy has the same one. -/
  hierarchy : ∀ {a h}, rq.hierarchy? a = some h → rq'.hierarchy? a = some h

variable {rq rq' : Request}

theorem Extends.plainValue (h : rq.Extends rq') {e : Expr} (he : e.Unordered)
    (htrue : rq.plainValue e = .ok true) : rq'.plainValue e = .ok true := by
  refine plainValue_mono he (he.imp fun a tail hop => ?_) htrue
  rcases tail with _ | ⟨op, v⟩
  · exact fun hholds => plainValue_holds_iff.2 (h.held a (plainValue_holds_iff.1 hholds))
  obtain rfl | rfl := hop op v rfl
  · intro heq
    refine plainValue_eq_iff.2 ((plainValue_eq_iff.1 heq).imp (fun hv => h.held a hv) ?_)
    rintro ⟨hierarchy, hsome, w, hw, hreaches⟩
    exact ⟨hierarchy, h.hierarchy hsome, w, h.held a hw, hreaches⟩
  · intro hne
    obtain ⟨w, hw, hdiffers⟩ := plainValue_ne_iff.1 hne
    exact plainValue_ne_iff.2 ⟨w, h.held a hw, hdiffers⟩

end Request

namespace Filter

/-- **Granting more takes no access away.** What an expression without orderings admits, it admits
when more is granted; and a triple that is judged by labels without orderings stays visible, however
the two filters have been used before. -/
theorem granting_keeps_access {rq rq' : Request} (h : rq.Extends rq') :
    (∀ e : Expr, e.Unordered → rq.plainValue e = .ok true → rq'.plainValue e = .ok true) ∧
      ∀ {σ σ' : Type} (f : Filter (StateM σ)) (g : Filter (StateM σ')) (u : Usage σ) (v : Usage σ')
        (t : Triple), f.request = rq → g.request = rq' → g.policy = f.policy →
        g.recorded v t = f.recorded u t →
        (∀ l, f.JudgesBy u t l → ∀ e, l.parse = .ok e → e.Unordered) →
        f.test u t = .ok true → g.test v t = .ok true := by
  refine ⟨fun e he => h.plainValue he, ?_⟩
  rintro σ σ' f g u v t rfl rfl hpolicy hrecorded hunordered
  refine test_mono hpolicy hrecorded ?_
  rintro l hl ⟨e, hparse, htrue⟩
  exact ⟨e, hparse, h.plainValue (hunordered l hl e hparse) htrue⟩

/-- A requester who comes to hold a second team, and whose clearance comes to have a hierarchy, and
two filters with different caches. -/
theorem granting_keeps_access_merged :
    let rq : Request :=
      { attributes := .ofPairs [("team", .text "red"), ("clearance", .text "secret")]
        hierarchy? := fun _ => none }
    let rq' : Request :=
      { attributes := rq.attributes.merge (.ofPairs [("team", .text "blue")])
        hierarchy? := fun a =>
          if a = "clearance" then some ⟨"clearance", [.text "public", .text "secret"]⟩ else none }
    let t : Triple := ⟨.uri "s", .uri "p", .uri "o"⟩
    let labels : List Label := [.ofText "team != blue & clearance = secret"]
    let labels? : Triple → ExceptT Error (StateM Nat) (Option (List Label)) := fun _ => do
      modify (· + 1)
      return some labels
    let f : Filter (StateM Nat) := { request := rq, policy := {}, labels? }
    let g : Filter (StateM Nat) := { request := rq', policy := {}, labels? }
    let u : Usage Nat := ⟨⟨1, 0⟩, 0, [.test t]⟩
    let v : Usage Nat := ⟨⟨0, 1⟩, 5, []⟩
    let e : Expr :=
      .and (.relation "team" .ne (.text "blue")) (.relation "clearance" .eq (.text "secret"))
    rq.Extends rq' ∧ e.Unordered ∧ rq.plainValue e = .ok true ∧ rq'.plainValue e = .ok true ∧
      f.test u t = .ok true ∧ g.test v t = .ok true := by
  intro rq rq' t labels labels? f g u v e
  have hextends : rq.Extends rq' :=
    { held := fun a w hw => AttributeSet.mem_get_merge.2 (.inl hw), hierarchy := nofun }
  have hunordered : e.Unordered := by simp [e, Expr.Unordered, Expr.EveryAtom]
  have htrue : rq.plainValue e = .ok true := by rfl
  have htest : f.test u t = .ok true := by rfl
  have hrecorded : f.recorded u t = .ok (some labels) := by rfl
  have hrecorded' : g.recorded v t = .ok (some labels) := by rfl
  have hparse : ∀ l, f.JudgesBy u t l → ∀ e', l.parse = .ok e' → e'.Unordered := by
    intro l hl e' he'
    obtain rfl := List.mem_singleton.1 ((judgesBy_iff hrecorded).1 hl)
    have he' : e = e' := Except.ok.inj he'
    exact he' ▸ hunordered
  obtain ⟨hexpr, hfilter⟩ := granting_keeps_access hextends
  exact ⟨hextends, hunordered, htrue, hexpr e hunordered htrue, htest,
    hfilter f g u v t rfl rfl rfl (hrecorded'.trans hrecorded.symm) hparse htest⟩

end Filter

end Clearance
