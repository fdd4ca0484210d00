import Clearance.Proofs.Running

/-!
# Computations that agree

Two computations *agree* along a relation of states when they give the same answer in related states
and lead to related states. What is composed of parts that agree, agrees.

## Main definitions

* `Clearance.Agree` — computations that agree.

## Main results

* `Clearance.Agree.bind`, `Clearance.agree_get_bind` — computations one after the other, and
  computations that look at their state.
-/

namespace Clearance

variable {σ τ α β ε : Type} {R : σ → τ → Prop}

/-- Computations that give the same answer in related states and lead to related states. -/
def Agree (R : σ → τ → Prop) (x : ExceptT ε (StateM σ) α) (y : ExceptT ε (StateM τ) α) : Prop :=
  ∀ s t, R s t → (x.run.run s).1 = (y.run.run t).1 ∧ R (x.run.run s).2 (y.run.run t).2

theorem agree_pure (a : α) :
    Agree R (pure a : ExceptT ε (StateM σ) α) (pure a : ExceptT ε (StateM τ) α) :=
  fun _ _ h => ⟨rfl, h⟩

theorem agree_throw (e : ε) :
    Agree R (throw e : ExceptT ε (StateM σ) α) (throw e : ExceptT ε (StateM τ) α) :=
  fun _ _ h => ⟨rfl, h⟩

theorem agree_lift (r : Except ε α) :
    Agree R (liftM r : ExceptT ε (StateM σ) α) (liftM r : ExceptT ε (StateM τ) α) := by
  cases r with
  | ok a => exact agree_pure a
  | error e => exact agree_throw e

theorem agree_modify {f : σ → σ} {g : τ → τ} (h : ∀ s t, R s t → R (f s) (g t)) :
    Agree R (modify f : ExceptT ε (StateM σ) PUnit) (modify g : ExceptT ε (StateM τ) PUnit) :=
  fun s t hst => ⟨rfl, h s t hst⟩

theorem Agree.bind {x : ExceptT ε (StateM σ) α} {y : ExceptT ε (StateM τ) α}
    {k : α → ExceptT ε (StateM σ) β} {l : α → ExceptT ε (StateM τ) β} (hxy : Agree R x y)
    (hkl : ∀ a, Agree R (k a) (l a)) : Agree R (x >>= k) (y >>= l) := by
  intro s t h
  obtain ⟨hanswer, hstate⟩ := hxy s t h
  rcases hx : x.run.run s with ⟨e | a, s'⟩
  · rcases hy : y.run.run t with ⟨e' | b, t'⟩
    · rw [hx, hy] at hanswer hstate
      cases hanswer
      rw [run_bind_error hx, run_bind_error hy]
      exact ⟨rfl, hstate⟩
    · rw [hx, hy] at hanswer
      cases hanswer
  · rcases hy : y.run.run t with ⟨e' | b, t'⟩
    · rw [hx, hy] at hanswer
      cases hanswer
    · rw [hx, hy] at hanswer hstate
      cases hanswer
      rw [run_bind_ok hx, run_bind_ok hy]
      exact hkl a s' t' hstate

theorem Agree.map {x : ExceptT ε (StateM σ) α} {y : ExceptT ε (StateM τ) α} (hxy : Agree R x y)
    (f : α → β) : Agree R (f <$> x) (f <$> y) := by
  intro s t h
  obtain ⟨hanswer, hstate⟩ := hxy s t h
  rw [run_map, run_map, hanswer]
  exact ⟨rfl, hstate⟩

/-- What computations do may depend on the state that they find. -/
theorem agree_get_bind {k : σ → ExceptT ε (StateM σ) β} {l : τ → ExceptT ε (StateM τ) β}
    (hkl : ∀ s t, R s t → Agree R (k s) (l t)) : Agree R (get >>= k) (get >>= l) :=
  fun s t h => hkl s t h s t h

end Clearance
