/-!
# Running computations that may fail

A computation with a state that may fail is run step by step: what is read, what is written, and how
the run goes on after a part that succeeded or failed. The state that a part leaves is kept in both
cases.

## Main results

* `Clearance.run_bind_ok`, `Clearance.run_bind_error` — a run after its first part.
* `Clearance.run_tryCatch_bind_ok`, `Clearance.run_tryCatch_bind_error` — a run in which failures of
  its first part are handled.
* `Clearance.run_get_bind`, `Clearance.run_set_bind`, `Clearance.run_modify_bind` — reading and
  writing the state.
* `Clearance.bind_eq_ok` — a computation without a state after its first part.
-/

namespace Clearance

variable {σ α β ε : Type}

theorem run_get_bind (k : σ → ExceptT ε (StateM σ) α) (s : σ) :
    (get >>= k : ExceptT ε (StateM σ) α).run.run s = (k s).run.run s := rfl

theorem run_set_bind (s' : σ) (k : PUnit → ExceptT ε (StateM σ) α) (s : σ) :
    (set s' >>= k : ExceptT ε (StateM σ) α).run.run s = (k ⟨⟩).run.run s' := rfl

theorem run_modify_bind (g : σ → σ) (k : PUnit → ExceptT ε (StateM σ) α) (s : σ) :
    (modify g >>= k : ExceptT ε (StateM σ) α).run.run s = (k ⟨⟩).run.run (g s) := rfl

theorem run_pure (a : α) (s : σ) : (pure a : ExceptT ε (StateM σ) α).run.run s = (.ok a, s) := rfl

theorem run_throw (e : ε) (s : σ) :
    (throw e : ExceptT ε (StateM σ) α).run.run s = (.error e, s) := rfl

theorem run_map (f : α → β) (x : ExceptT ε (StateM σ) α) (s : σ) :
    (f <$> x).run.run s = ((x.run.run s).1.map f, (x.run.run s).2) := by
  rw [ExceptT.run_map, StateT.run_map]
  rfl

/-- A result that is there is a success. -/
theorem eq_ok_of_toOption {r : Except ε α} {a : α} (h : r.toOption = some a) : r = .ok a := by
  cases r with
  | error e => cases h
  | ok b => exact congrArg Except.ok (Option.some.inj h)

/-- Of a computation in two parts that succeeds, both parts succeed. -/
theorem bind_eq_ok {r : Except ε α} {k : α → Except ε β} {b : β} :
    r >>= k = .ok b ↔ ∃ a, r = .ok a ∧ k a = .ok b := by
  cases r <;> simp [Bind.bind, Except.bind]

theorem mapError_eq_ok {ε' : Type} {r : Except ε α} {f : ε → ε'} {a : α} :
    r.mapError f = .ok a ↔ r = .ok a := by
  cases r with
  | error e =>
    show Except.error (f e) = .ok a ↔ _
    exact iff_of_false (by simp) (by simp)
  | ok b =>
    show Except.ok b = .ok a ↔ _
    rw [Except.ok.injEq, Except.ok.injEq]

variable {x : ExceptT ε (StateM σ) α} {s s' : σ}

theorem run_bind_ok {a : α} (h : x.run.run s = (.ok a, s')) (k : α → ExceptT ε (StateM σ) β) :
    (x >>= k).run.run s = (k a).run.run s' := by
  rw [ExceptT.run_bind, StateT.run_bind, h]
  rfl

/-- A run that succeeds has a first part that succeeds. -/
theorem run_bind_eq_ok {k : α → ExceptT ε (StateM σ) β} {b : β}
    (h : (x >>= k).run.run s = (.ok b, s')) :
    ∃ a s₁, x.run.run s = (.ok a, s₁) ∧ (k a).run.run s₁ = (.ok b, s') := by
  rw [ExceptT.run_bind, StateT.run_bind] at h
  rcases hx : x.run.run s with ⟨a | a, s₁⟩
  · rw [hx] at h
    cases h
  · rw [hx] at h
    exact ⟨a, s₁, rfl, h⟩

theorem run_bind_error {e : ε} (h : x.run.run s = (.error e, s')) (k : α → ExceptT ε (StateM σ) β) :
    (x >>= k).run.run s = (.error e, s') := by
  rw [ExceptT.run_bind, StateT.run_bind, h]
  rfl

theorem run_tryCatch_bind_ok {a : α} (h : x.run.run s = (.ok a, s'))
    (handle : ε → ExceptT ε (StateM σ) α) (k : α → ExceptT ε (StateM σ) β) :
    (tryCatch x handle >>= k).run.run s = (k a).run.run s' := by
  refine run_bind_ok ?_ k
  rw [ExceptT.run_tryCatch, StateT.run_bind, h]
  rfl

theorem run_tryCatch_bind_error {e : ε} (h : x.run.run s = (.error e, s'))
    (handle : ε → ExceptT ε (StateM σ) α) (k : α → ExceptT ε (StateM σ) β) :
    (tryCatch x handle >>= k).run.run s = (handle e >>= k).run.run s' := by
  rw [ExceptT.run_bind, ExceptT.run_tryCatch, StateT.run_bind, StateT.run_bind, h]
  rfl

end Clearance
