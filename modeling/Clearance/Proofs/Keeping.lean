import Clearance.Proofs.Running

/-!
# Computations that keep a property

A computation *keeps* a property of its state when the property holds after it if it holds before,
also when the computation fails; what it answers may have a property of its own. What is composed of
parts that keep a property keeps it.

## Main definitions

* `Clearance.Keeps` — computations that keep a property.

## Main results

* `Clearance.Keeps.bind`, `Clearance.keeps_get_bind`, `Clearance.Keeps.tryCatch` — computations one
  after the other, computations that look at their state, and computations that may fail.
-/

namespace Clearance

variable {σ α β ε : Type} {P : σ → Prop} {Q : α → Prop} {S : β → Prop}

/-- A computation that keeps the property `P` of its state and gives only answers with the property
`Q`. -/
def Keeps (P : σ → Prop) (x : ExceptT ε (StateM σ) α) (Q : α → Prop) : Prop :=
  ∀ s, P s → P (x.run.run s).2 ∧ ∀ a, (x.run.run s).1 = .ok a → Q a

theorem keeps_pure {a : α} (ha : Q a) : Keeps P (pure a : ExceptT ε (StateM σ) α) Q := by
  rintro s hs
  refine ⟨hs, ?_⟩
  rintro b hb
  cases hb
  exact ha

theorem keeps_throw (e : ε) : Keeps P (throw e : ExceptT ε (StateM σ) α) Q := by
  rintro s hs
  refine ⟨hs, ?_⟩
  rintro a ha
  cases ha

theorem keeps_lift (r : Except ε α) :
    Keeps P (liftM r : ExceptT ε (StateM σ) α) fun a => r = .ok a := by
  rcases r with e | a
  · exact keeps_throw e
  · exact keeps_pure rfl

theorem Keeps.bind {x : ExceptT ε (StateM σ) α} {k : α → ExceptT ε (StateM σ) β}
    (hx : Keeps P x Q) (hk : ∀ a, Q a → Keeps P (k a) S) : Keeps P (x >>= k) S := by
  intro s hs
  obtain ⟨hstate, hanswer⟩ := hx s hs
  rcases h : x.run.run s with ⟨e | a, s'⟩
  · rw [h] at hstate
    rw [run_bind_error h]
    exact keeps_throw e s' hstate
  · rw [h] at hstate hanswer
    rw [run_bind_ok h]
    exact hk a (hanswer a rfl) s' hstate

theorem Keeps.map {x : ExceptT ε (StateM σ) α} (hx : Keeps P x Q) (f : α → β) :
    Keeps P (f <$> x) fun _ => True := by
  intro s hs
  rw [run_map]
  exact ⟨(hx s hs).1, fun _ _ => trivial⟩

/-- What is done when a computation fails finds what the computation kept. -/
theorem Keeps.tryCatch {x : ExceptT ε (StateM σ) α} {handle : ε → ExceptT ε (StateM σ) α}
    (hx : Keeps P x Q) (hhandle : ∀ e, Keeps P (handle e) Q) : Keeps P (tryCatch x handle) Q := by
  intro s hs
  obtain ⟨hkept, hanswer⟩ := hx s hs
  rw [ExceptT.run_tryCatch, StateT.run_bind]
  rcases h : x.run.run s with ⟨e | a, s'⟩
  · rw [h] at hkept
    exact hhandle e s' hkept
  · rw [h] at hkept hanswer
    exact ⟨hkept, hanswer⟩

/-- What a computation does may depend on the state that it finds. -/
theorem keeps_get_bind {k : σ → ExceptT ε (StateM σ) β} (hk : ∀ s, P s → Keeps P (k s) S) :
    Keeps P (get >>= k) S :=
  fun s hs => hk s hs s hs

end Clearance
