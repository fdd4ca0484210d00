import Clearance.Proofs.Request.Unordered

/-!
# Equality and difference

Attributes have several values. A constant equals what is held if it is one of the held values, and
it differs from what is held if some held value is another one. So whoever holds a value satisfies
the equality or the difference, and whoever holds the constant next to another value satisfies both.
Without the latter the two exclude each other, and no conjunction of both admits anyone.

## Main definitions

* `Clearance.Expr.IsConjunct` — the conjuncts of an expression.

## Main results

* `Clearance.Request.plainValue_of_isConjunct` — of a true expression every conjunct is true.
* `Clearance.Request.equality_or_difference`
-/

namespace Clearance

namespace Expr

/-- `IsConjunct c e`: the expression `c` is `e`, or stands in `e` under conjunctions and brackets
only. -/
inductive IsConjunct (c : Expr) : Expr → Prop
  | self : IsConjunct c c
  | left {e : Expr} (h : IsConjunct c e) (f : Expr) : IsConjunct c (.and e f)
  | right (e : Expr) {f : Expr} (h : IsConjunct c f) : IsConjunct c (.and e f)
  | bracket {e : Expr} (h : IsConjunct c e) : IsConjunct c (.bracket e)

end Expr

namespace Request

variable {rq : Request} {a : Attribute} {v : Value} {c e : Expr}

/-- **Of a true expression every conjunct is true.** -/
theorem plainValue_of_isConjunct (h : c.IsConjunct e) (he : rq.plainValue e = .ok true) :
    rq.plainValue c = .ok true := by
  induction h with
  | self => exact he
  | left h f ih => exact ih (plainValue_and_iff.1 he).1
  | right e h ih => exact ih (plainValue_and_iff.1 he).2
  | bracket h ih => exact ih he

theorem plainValue_eq_iff_mem (hnone : rq.hierarchy? a = none) :
    rq.plainValue (.relation a .eq v) = .ok true ↔ v ∈ rq.attributes.get a := by
  rw [plainValue_eq_iff, hnone]
  simp

theorem exists_plainValue_relation (rq : Request) (a : Attribute) {op : Operator}
    (hop : op = .eq ∨ op = .ne) (v : Value) :
    ∃ b, rq.plainValue (.relation a op v) = .ok b ∧
      (b = true ↔ rq.plainValue (.relation a op v) = .ok true) := by
  have hunordered : (Expr.relation a op v).Unordered := by
    rintro op' v' ⟨⟩
    exact hop
  obtain ⟨b, hb⟩ := rq.exists_plainValue hunordered
  exact ⟨b, hb, by rw [hb, Except.ok.injEq]⟩

/-- **Whoever holds a value of an attribute satisfies the equality with a constant or the difference
from it**, and both exactly if the constant is held next to another value; whoever holds none
satisfies neither. An expression with both as conjuncts admits no one else than who holds the
constant next to another value. There is no hierarchy here, through which another value may do for
the constant. -/
theorem equality_or_difference (hnone : rq.hierarchy? a = none) :
    (∃ b c, rq.plainValue (.relation a .eq v) = .ok b ∧ rq.plainValue (.relation a .ne v) = .ok c ∧
      (rq.attributes.get a = [] → b = false ∧ c = false) ∧
      (rq.attributes.get a ≠ [] → (b = true ∨ c = true) ∧
        (b = c ↔ v ∈ rq.attributes.get a ∧ ∃ w ∈ rq.attributes.get a, w ≠ v))) ∧
    ∀ e : Expr, (Expr.relation a .eq v).IsConjunct e → (Expr.relation a .ne v).IsConjunct e →
      rq.plainValue e = .ok true → v ∈ rq.attributes.get a ∧ ∃ w ∈ rq.attributes.get a, w ≠ v := by
  constructor
  · obtain ⟨b, hb, hequal⟩ := rq.exists_plainValue_relation a (.inl rfl) v
    obtain ⟨c, hc, hdiffer⟩ := rq.exists_plainValue_relation a (.inr rfl) v
    rw [plainValue_eq_iff_mem hnone] at hequal
    rw [plainValue_ne_iff] at hdiffer
    refine ⟨b, c, hb, hc, fun hheld => ?_, fun hheld => ?_⟩
    · simpa [hheld] using And.intro hequal hdiffer
    · have hone : b = true ∨ c = true := by
        obtain ⟨w, hw⟩ := List.exists_mem_of_ne_nil _ hheld
        by_cases hwv : w = v
        · exact .inl (hequal.2 (hwv ▸ hw))
        · exact .inr (hdiffer.2 ⟨w, hw, hwv⟩)
      refine ⟨hone, ?_⟩
      rw [← hequal, ← hdiffer]
      cases b <;> cases c <;> simp_all
  · intro e hequal hdiffer he
    exact ⟨(plainValue_eq_iff_mem hnone).1 (plainValue_of_isConjunct hequal he),
      plainValue_ne_iff.1 (plainValue_of_isConjunct hdiffer he)⟩

/-- A requester who holds the constant next to other values, and an attribute with a hierarchy
beside it. -/
theorem equality_or_difference_three_values :
    let rq : Request := {
      attributes := .ofPairs [("role", .text "guest"), ("role", .text "admin"), ("b", .flag true),
        ("role", .flag true)]
      hierarchy? := fun a => if a = "b" then some ⟨"b", [.flag false, .flag true]⟩ else none }
    let e : Expr := .and (.bracket (.and (.holds "b") (.relation "role" .ne (.text "admin"))))
      (.relation "role" .eq (.text "admin"))
    rq.hierarchy? "role" = none ∧ rq.plainValue e = .ok true ∧
      Value.text "admin" ∈ rq.attributes.get "role" ∧
      ∃ w ∈ rq.attributes.get "role", w ≠ Value.text "admin" := by
  intro rq e
  have hnone : rq.hierarchy? "role" = none := rfl
  have he : rq.plainValue e = .ok true := rfl
  exact ⟨hnone, he,
    (equality_or_difference hnone).2 e (.right _ .self) (.left (.bracket (.right _ .self)) _) he⟩

/-- **Equality and difference do not exclude each other:** a requester with two values satisfies
both, and their conjunction. -/
theorem both_with_two_values :
    let rq : Request := {
      attributes := .ofPairs [("role", .text "admin"), ("role", .text "guest")]
      hierarchy? := fun _ => none }
    let e : Expr := .relation "role" .eq (.text "admin")
    let f : Expr := .relation "role" .ne (.text "admin")
    Expr.parse "role=admin & role!=admin".toList = .ok (.and e f) ∧
      AttributeSet.parse "role=admin, role=guest".toList = .ok rq.attributes ∧
      rq.plainValue e = .ok true ∧ rq.plainValue f = .ok true ∧
      rq.plainValue (.and e f) = .ok true := by
  intro rq e f
  exact ⟨rfl, rfl, rfl, rfl, rfl⟩

end Request

end Clearance
