import Clearance.Proofs.AttributeSet
import Clearance.Proofs.Filter.Usage
import Clearance.Proofs.Request.Unordered

/-!
# Raising a clearance takes no access away

Where an attribute has a hierarchy, a value may be replaced by one that stands as high or higher.
What the old value reached by being equal to a constant, the new one reaches by its place; and what
the old one reached by its place, the new one reaches because the comparison is transitive. For
other values of the attribute, and for other attributes, nothing changes. This takes expressions
that only ask for the attribute to be equal to a constant: a difference, or an attribute alone, may
well be lost with the old value.

## Main definitions

* `Clearance.AttributeSet.Replaced` — sets with one value in the place of another.
* `Clearance.Expr.OnlyEquates` — expressions that only ask for an attribute to be equal to
  constants.
* `Clearance.Request.Raises` — requests with a higher value in the place of another.

## Main results

* `Clearance.AttributeSet.replaced_replace` — every held value can be replaced by any other.
* `Clearance.Filter.raising_keeps_access` — expressions and filters.
-/

namespace Clearance

namespace AttributeSet

/-- `s.Replaced s' x v v'`: the set `s'` is `s` with the value `v'` of the attribute `x` in the
place of `v`. -/
structure Replaced (s s' : AttributeSet) (x : Attribute) (v v' : Value) : Prop where
  /-- The old value was held. -/
  old : v ∈ s.get x
  /-- The new value is held, and of the others those that were. -/
  new : ∀ w, w ∈ s'.get x ↔ w = v' ∨ w ∈ s.get x ∧ w ≠ v
  /-- Of other attributes the same values are held. -/
  others : ∀ {a}, a ≠ x → ∀ w, w ∈ s'.get a ↔ w ∈ s.get a

/-- The set in which all values of an attribute are taken away and added again, one of them
changed. -/
def replace (s : AttributeSet) (x : Attribute) (v v' : Value) : AttributeSet :=
  (s.clear x).addAll ((s.get x).map fun w => (x, if w = v then v' else w))

theorem replaced_replace {s : AttributeSet} {x : Attribute} {v : Value} (h : v ∈ s.get x)
    (v' : Value) : s.Replaced (s.replace x v v') x v v' where
  old := h
  new w := by
    have hreplaced : w ∈ (s.replace x v v').get x ↔
        ∃ u ∈ s.get x, (if u = v then v' else u) = w := by
      rw [replace, mem_get_addAll, mem_get_clear]
      simp
    rw [hreplaced]
    constructor
    · rintro ⟨u, hu, rfl⟩
      by_cases huv : u = v
      · exact .inl (if_pos huv)
      · exact .inr (by simpa [huv] using hu)
    · rintro (rfl | ⟨hw, hwv⟩)
      · exact ⟨v, h, if_pos rfl⟩
      · exact ⟨w, hw, if_neg hwv⟩
  others {a} hax w := by
    rw [replace, mem_get_addAll, mem_get_clear]
    simp [hax, Ne.symm hax]

end AttributeSet

/-- Whether an attribute stands in an expression only where it is to be equal to a constant. -/
def Expr.OnlyEquates (x : Attribute) (e : Expr) : Prop := e.EveryAtom fun a tail =>
  a = x → ∃ v, tail = some (.eq, v)

namespace Request

/-- `rq.Raises rq' x`: the request `rq'` is `rq` with one value of the attribute `x` replaced by one
that stands as high or higher in its hierarchy. -/
structure Raises (rq rq' : Request) (x : Attribute) (v v' : Value) : Prop where
  /-- One value is held in the place of the other. -/
  held : rq.attributes.Replaced rq'.attributes x v v'
  /-- Hierarchies are the same. -/
  hierarchy : rq'.hierarchy? = rq.hierarchy?
  /-- The new value is not lower. -/
  higher : ∃ h, rq.hierarchy? x = some h ∧ (h.compare? v v' = some .lt ∨ h.compare? v v' = some .eq)

variable {rq rq' : Request} {x a : Attribute} {v v' c : Value}

/-- **An equality with a constant is not lost**, be it by the same value or by the higher one. -/
theorem Raises.plainValue_eq (h : rq.Raises rq' x v v')
    (heq : rq.plainValue (.relation x .eq c) = .ok true) :
    rq'.plainValue (.relation x .eq c) = .ok true := by
  obtain ⟨order, horder, hcompare⟩ := h.higher
  have hhigher : order.reaches v v' = true := Hierarchy.reaches_iff_compare?.2 hcompare
  have hnew : v' ∈ rq'.attributes.get x := (h.held.new v').2 (.inl rfl)
  rw [plainValue_eq_iff, h.hierarchy]
  rcases plainValue_eq_iff.1 heq with hc | ⟨order', horder', w, hw, hreaches⟩
  · by_cases hcv : c = v
    · exact .inr ⟨order, horder, v', hnew, hcv ▸ hhigher⟩
    · exact .inl ((h.held.new c).2 (.inr ⟨hc, hcv⟩))
  · obtain rfl : order' = order := Option.some.inj (horder'.symm.trans horder)
    by_cases hwv : w = v
    · exact .inr ⟨order', horder, v', hnew, Hierarchy.reaches_trans (hwv ▸ hreaches) hhigher⟩
    · exact .inr ⟨order', horder, w, (h.held.new w).2 (.inr ⟨hw, hwv⟩), hreaches⟩

theorem Raises.plainValue (h : rq.Raises rq' x v v') {e : Expr} (he : e.Unordered)
    (hx : e.OnlyEquates x) (htrue : rq.plainValue e = .ok true) : rq'.plainValue e = .ok true := by
  refine plainValue_mono he ((he.and hx).imp fun a tail hatom => ?_) htrue
  obtain ⟨hop, hequates⟩ := hatom
  by_cases hax : a = x
  · obtain ⟨c, rfl⟩ := hequates hax
    exact hax ▸ h.plainValue_eq
  · have hothers := h.held.others hax
    rcases tail with _ | ⟨op, c⟩
    · intro hholds
      exact plainValue_holds_iff.2 ((hothers _).2 (plainValue_holds_iff.1 hholds))
    obtain rfl | rfl := hop op c rfl
    · intro heq
      rw [Grammar.relationOf, plainValue_eq_iff] at heq ⊢
      simpa only [hothers, h.hierarchy] using heq
    · intro hne
      rw [Grammar.relationOf, plainValue_ne_iff] at hne ⊢
      simpa only [hothers] using hne

end Request

namespace Filter

/-- **Raising a clearance takes no access away.** What an expression admits that only asks for the
attribute to be equal to constants, and has no orderings, it admits with the higher value; and a
triple that is judged by such labels stays visible, however the two filters have been used
before. -/
theorem raising_keeps_access {rq rq' : Request} {x : Attribute} {v v' : Value}
    (h : rq.Raises rq' x v v') :
    (∀ e : Expr, e.Unordered → e.OnlyEquates x → rq.plainValue e = .ok true →
        rq'.plainValue e = .ok true) ∧
      ∀ {σ σ' : Type} (f : Filter (StateM σ)) (g : Filter (StateM σ')) (used : Usage σ)
        (used' : Usage σ') (t : Triple), f.request = rq → g.request = rq' → g.policy = f.policy →
        g.recorded used' t = f.recorded used t →
        (∀ l, f.JudgesBy used t l → ∀ e, l.parse = .ok e → e.Unordered ∧ e.OnlyEquates x) →
        f.test used t = .ok true → g.test used' t = .ok true := by
  refine ⟨fun e he hx => h.plainValue he hx, ?_⟩
  rintro σ σ' f g used used' t rfl rfl hpolicy hrecorded hequates
  refine test_mono hpolicy hrecorded ?_
  rintro l hl ⟨e, hparse, htrue⟩
  obtain ⟨hunordered, hx⟩ := hequates l hl e hparse
  exact ⟨e, hparse, h.plainValue hunordered hx htrue⟩

/-- A requester whose clearance `public` is raised to `secret`, beside a clearance that is no part
of the hierarchy. -/
theorem raising_keeps_access_beside :
    let values : List Value := [.text "public", .text "restricted", .text "secret"]
    let rq : Request :=
      { attributes := .ofPairs [("clearance", .text "public"), ("clearance", .text "press"),
          ("staff", .flag true)]
        hierarchy? := fun a => if a = "clearance" then some ⟨"clearance", values⟩ else none }
    let rq' : Request :=
      { rq with attributes := rq.attributes.replace "clearance" (.text "public") (.text "secret") }
    let t : Triple := ⟨.uri "s", .uri "p", .uri "o"⟩
    let labels : List Label := [.ofText "staff & (clearance = public | clearance = none)"]
    let labels? : Triple → ExceptT Error (StateM Nat) (Option (List Label)) := fun _ => do
      modify (· + 1)
      return some labels
    let f : Filter (StateM Nat) := { request := rq, policy := {}, labels? }
    let g : Filter (StateM Nat) := { request := rq', policy := {}, labels? }
    let used : Usage Nat := ⟨⟨1, 0⟩, 0, [.test t]⟩
    let used' : Usage Nat := ⟨⟨0, 1⟩, 5, []⟩
    let e : Expr := .and (.holds "staff") (.bracket
      (.or (.relation "clearance" .eq (.text "public")) (.relation "clearance" .eq (.text "none"))))
    rq.Raises rq' "clearance" (.text "public") (.text "secret") ∧ e.Unordered ∧
      e.OnlyEquates "clearance" ∧ rq.plainValue e = .ok true ∧ rq'.plainValue e = .ok true ∧
      f.test used t = .ok true ∧ g.test used' t = .ok true := by
  intro values rq rq' t labels labels? f g used used' e
  have hraises : rq.Raises rq' "clearance" (.text "public") (.text "secret") :=
    { held := AttributeSet.replaced_replace (by decide +kernel) _
      hierarchy := rfl
      higher := ⟨⟨"clearance", values⟩, rfl, .inl rfl⟩ }
  have hunordered : e.Unordered := by simp [e, Expr.Unordered, Expr.EveryAtom]
  have hequates : e.OnlyEquates "clearance" := by simp [e, Expr.OnlyEquates, Expr.EveryAtom]
  have htrue : rq.plainValue e = .ok true := by rfl
  have htest : f.test used t = .ok true := by rfl
  have hrecorded : f.recorded used t = .ok (some labels) := by rfl
  have hrecorded' : g.recorded used' t = .ok (some labels) := by rfl
  have hparse : ∀ l, f.JudgesBy used t l → ∀ e', l.parse = .ok e' →
      e'.Unordered ∧ e'.OnlyEquates "clearance" := by
    intro l hl e' he'
    obtain rfl := List.mem_singleton.1 ((judgesBy_iff hrecorded).1 hl)
    have he' : e = e' := Except.ok.inj he'
    exact he' ▸ ⟨hunordered, hequates⟩
  obtain ⟨hexpr, hfilter⟩ := raising_keeps_access hraises
  exact ⟨hraises, hunordered, hequates, htrue, hexpr e hunordered hequates htrue, htest,
    hfilter f g used used' t rfl rfl rfl (hrecorded'.trans hrecorded.symm) hparse htest⟩

end Filter

end Clearance
