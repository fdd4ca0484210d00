import Clearance.Proofs.Running

/-!
# Steady computations

A computation with a state is *steady* on an invariant when in every state with the invariant it
gives one and the same answer and leaves the invariant in place. Computations that go through a
cache are steady: what the cache holds changes, and the answers do not.

## Main definitions

* `Clearance.Steady` — steady computations.

## Main results

* `Clearance.Steady.bind`, `Clearance.Steady.bind_except` — steady computations one after the other,
  without and with failures.
-/

namespace Clearance

variable {σ α β ε : Type} {inv : σ → Prop}

/-- A computation that answers `a` in every state with the invariant and keeps the invariant. -/
def Steady (inv : σ → Prop) (x : StateM σ α) (a : α) : Prop :=
  ∀ s, inv s → (x.run s).1 = a ∧ inv (x.run s).2

theorem steady_pure (a : α) : Steady inv (pure a) a := fun _ hs => ⟨rfl, hs⟩

namespace Steady

theorem bind {x : StateM σ α} {k : α → StateM σ β} {a : α} {b : β} (hx : Steady inv x a)
    (hk : Steady inv (k a) b) : Steady inv (x >>= k) b := by
  intro s hs
  obtain ⟨rfl, hs'⟩ := hx s hs
  exact hk _ hs'

theorem lift {x : StateM σ α} {a : α} (hx : Steady inv x a) :
    Steady inv (liftM x : ExceptT ε (StateM σ) α).run (.ok a) := by
  intro s hs
  obtain ⟨rfl, hs'⟩ := hx s hs
  exact ⟨rfl, hs'⟩

/-- A computation that may fail answers like a computation without a state, when its parts do. -/
theorem bind_except {x : ExceptT ε (StateM σ) α} {k : α → ExceptT ε (StateM σ) β}
    {y : ExceptT ε Id α} {l : α → ExceptT ε Id β} (hx : Steady inv x.run y.run)
    (hk : ∀ a, y.run = Except.ok a → Steady inv (k a).run (l a).run) :
    Steady inv (x >>= k).run (y >>= l).run := by
  refine Steady.bind (k := ExceptT.bindCont k) hx ?_
  have hl : (y >>= l).run = (ExceptT.bindCont l y.run : Id (Except ε β)) := rfl
  rw [hl]
  cases h : y.run with
  | ok a => exact hk a h
  | error e => exact steady_pure _

theorem tryCatch_ok {x : ExceptT ε (StateM σ) α} {a : α} (hx : Steady inv x.run (.ok a))
    (h : ε → ExceptT ε (StateM σ) α) : Steady inv (tryCatch x h).run (.ok a) := by
  rw [ExceptT.run_tryCatch]
  exact hx.bind (steady_pure _)

theorem tryCatch_error {x : ExceptT ε (StateM σ) α} {e : ε} {h : ε → ExceptT ε (StateM σ) α}
    {r : Except ε α} (hx : Steady inv x.run (.error e)) (hh : Steady inv (h e).run r) :
    Steady inv (tryCatch x h).run r := by
  rw [ExceptT.run_tryCatch]
  exact hx.bind hh

end Steady

end Clearance
