import Mathlib.Data.List.Induction
import Clearance.Proofs.BoundedCache.WellFormed

/-!
# What a cache gives

Users of a cache ask for keys, insert values, ask for keys whose values are computed if there are
none, and clear the cache. All this comes down to *steps*, which get, insert and clear. A cache that
was empty is well-formed after any steps. For a key it gives nothing but the value that was inserted
last since it was cleared, and it gives all of these values as long as there is room for all
different keys.

## Main definitions

* `Clearance.BoundedCache.Step`, `Clearance.BoundedCache.Op` — steps, and what users do.
* `Clearance.BoundedCache.stepsOf`, `Clearance.BoundedCache.history` — the steps that it comes down
  to.
* `Clearance.BoundedCache.insertions`, `Clearance.BoundedCache.lastInserted?` — what steps have
  inserted since the last one that cleared.

## Main results

* `Clearance.BoundedCache.getOrInsert_of_find?`,
  `Clearance.BoundedCache.getOrInsert_of_find?_eq_none` — values that are computed.
* `Clearance.BoundedCache.runAll_eq_after` — what users do, by steps.
* `Clearance.BoundedCache.WellFormed.after`, `Clearance.BoundedCache.throughout_after`,
  `Clearance.BoundedCache.keys_after` — caches after some steps.
* `Clearance.BoundedCache.bounded_caches_give_last_insertions`
-/

namespace Clearance.BoundedCache

/-- A step of a cache. -/
inductive Step (κ ν : Type) where
  /-- A key is asked for. -/
  | get (k : κ)
  /-- A value is inserted. -/
  | insert (k : κ) (v : ν)
  /-- All entries are dropped. -/
  | clear

/-- What users of a cache do. -/
inductive Op (κ ν ε : Type) where
  /-- A single step. -/
  | step (s : Step κ ν)
  /-- A key is asked for, and `result` is what the computation gives if there is no value for it. -/
  | getOrInsert (k : κ) (result : Except ε ν)

/-- Whether a step asks for a key. -/
def Step.isGet {κ ν : Type} : Step κ ν → Bool
  | .get _ => true
  | .insert .. => false
  | .clear => false

/-- Whether users ask for a key, be it to have a value computed if there is none. -/
def Op.isGet {κ ν ε : Type} : Op κ ν ε → Bool
  | .step s => s.isGet
  | .getOrInsert .. => true

/-- What has been inserted since the cache was last cleared, after one more step. -/
def Step.record {κ ν : Type} (inserted : List (κ × ν)) : Step κ ν → List (κ × ν)
  | .get _ => inserted
  | .insert k v => inserted ++ [(k, v)]
  | .clear => []

variable {κ ν ε : Type} {c : BoundedCache κ ν} {k : κ} {steps : List (Step κ ν)}

/-- What some steps have inserted since the last one that cleared, in order. -/
def insertions (steps : List (Step κ ν)) : List (κ × ν) := steps.foldl Step.record []

theorem insertions_concat (steps : List (Step κ ν)) (s : Step κ ν) :
    insertions (steps ++ [s]) = s.record (insertions steps) := List.foldl_concat ..

/-- The keys for which some steps have inserted values since the last one that cleared. -/
def keysInserted (steps : List (Step κ ν)) : List κ := (insertions steps).map Prod.fst

variable [DecidableEq κ]

/-- The value that was inserted last for a key, if any was since the last step that cleared. -/
def lastInserted? (steps : List (Step κ ν)) (k : κ) : Option ν :=
  ((insertions steps).reverse.find? fun e => e.1 = k).map Prod.snd

/-- A cache after a step. -/
def perform (c : BoundedCache κ ν) : Step κ ν → BoundedCache κ ν
  | .get k => (c.get k).2
  | .insert k v => c.insert k v
  | .clear => c.clear

/-- A cache after some steps. -/
def after (c : BoundedCache κ ν) (steps : List (Step κ ν)) : BoundedCache κ ν :=
  steps.foldl perform c

/-- A cache after its user did something. -/
def run (c : BoundedCache κ ν) : Op κ ν ε → BoundedCache κ ν
  | .step s => c.perform s
  | .getOrInsert k result => (Id.run (c.getOrInsert k (pure result))).2

/-- A cache after its user did some things, one after the other. -/
def runAll (c : BoundedCache κ ν) (ops : List (Op κ ν ε)) : BoundedCache κ ν := ops.foldl run c

/-- The steps that come of what a user does: a value that is computed is inserted. -/
def stepsOf (c : BoundedCache κ ν) : Op κ ν ε → List (Step κ ν)
  | .step s => [s]
  | .getOrInsert k result =>
    .get k :: if (c.find? k).isNone then result.toOption.toList.map (.insert k) else []

/-- The steps that come of what a user does, one after the other. -/
def history (c : BoundedCache κ ν) : List (Op κ ν ε) → List (Step κ ν)
  | [] => []
  | op :: ops => c.stepsOf op ++ (c.run op).history ops

/-! ### Values that are computed -/

section Computed

variable {m : Type → Type} [Monad m]

/-- A value that is kept is not computed again. -/
theorem getOrInsert_of_find? {v : ν} (hv : c.find? k = some v) (compute : m (Except ε ν)) :
    c.getOrInsert k compute = pure (.ok v, (c.get k).2) := by
  simp only [getOrInsert, get, hv]

/-- Whatever computes a value when there is none, what it does to the cache depends on its result
only. -/
theorem getOrInsert_of_find?_eq_none (hk : c.find? k = none) (compute : m (Except ε ν)) :
    c.getOrInsert k compute = do
      let result ← compute
      return (result, c.run (.getOrInsert k result)) := by
  simp only [getOrInsert, get, hk]
  refine congrArg (compute >>= ·) (funext fun result => ?_)
  cases result <;> simp only [run, getOrInsert, get, hk] <;> rfl

end Computed

theorem run_getOrInsert_error (hk : c.find? k = none) (e : ε) :
    c.run (.getOrInsert k (.error e)) = { c with misses := c.misses + 1 } := by
  simp only [run, getOrInsert, get, hk]
  rfl

/-! ### Steps -/

theorem after_append (c : BoundedCache κ ν) (early late : List (Step κ ν)) :
    c.after (early ++ late) = (c.after early).after late := List.foldl_append

theorem after_concat (c : BoundedCache κ ν) (steps : List (Step κ ν)) (s : Step κ ν) :
    c.after (steps ++ [s]) = (c.after steps).perform s := c.after_append steps [s]

/-- What a user does comes down to steps. -/
theorem run_eq_after (c : BoundedCache κ ν) (op : Op κ ν ε) :
    c.run op = c.after (c.stepsOf op) := by
  cases op with
  | step s => rfl
  | getOrInsert k result =>
    rcases hk : c.find? k with _ | v
    · cases result <;> simp [run, stepsOf, after, perform, getOrInsert, get, hk, Except.toOption]
    · simp [run, stepsOf, after, perform, getOrInsert, get, hk]

theorem runAll_eq_after (c : BoundedCache κ ν) (ops : List (Op κ ν ε)) :
    c.runAll ops = c.after (c.history ops) := by
  induction ops generalizing c with
  | nil => rfl
  | cons op ops ih =>
    rw [history, after_append, ← run_eq_after, ← ih]
    rfl

theorem capacity_after (c : BoundedCache κ ν) (steps : List (Step κ ν)) :
    (c.after steps).capacity = c.capacity := by
  induction steps using List.reverseRecOn with
  | nil => rfl
  | append_singleton steps s ih =>
    rw [after_concat]
    cases s with
    | get k => exact ((c.after steps).capacity_get k).trans ih
    | insert k v => exact ((c.after steps).capacity_insert k v).trans ih
    | clear => exact ih

/-- **Caches stay well-formed.** -/
theorem WellFormed.after (h : c.WellFormed) (steps : List (Step κ ν)) :
    (c.after steps).WellFormed := by
  induction steps using List.reverseRecOn with
  | nil => exact h
  | append_singleton steps s ih =>
    rw [after_concat]
    cases s with
    | get k => exact ih.get k
    | insert k v => exact ih.insert k v
    | clear => exact wellFormed_clear _

/-! ### What was inserted -/

theorem lastInserted?_insert (steps : List (Step κ ν)) (k k' : κ) (v : ν) :
    lastInserted? (steps ++ [.insert k v]) k'
      = if k = k' then some v else lastInserted? steps k' := by
  rw [lastInserted?, insertions_concat, Step.record, List.reverse_concat, List.find?_cons]
  by_cases hk : k = k'
  · simp [hk]
  · simp [hk, lastInserted?]

theorem lastInserted?_eq_none_iff : lastInserted? steps k = none ↔ k ∉ keysInserted steps := by
  rw [lastInserted?, Option.map_eq_none_iff, List.find?_eq_none, keysInserted, List.mem_map]
  constructor
  · rintro hnone ⟨e, he, rfl⟩
    exact hnone e (List.mem_reverse.2 he) (decide_eq_true rfl)
  · intro hk e he heq
    exact hk ⟨e, List.mem_reverse.1 he, of_decide_eq_true heq⟩

/-- **What is kept was inserted last** for its key. -/
theorem throughout_after (h : c.WellFormed) (hkeys : c.keys = []) (steps : List (Step κ ν)) :
    (c.after steps).Throughout fun k v => lastInserted? steps k = some v := by
  induction steps using List.reverseRecOn with
  | nil => exact throughout_of_slots_eq_nil (List.map_eq_nil_iff.1 hkeys)
  | append_singleton steps s ih =>
    rw [after_concat]
    cases s with
    | get k =>
      have hsame : insertions (steps ++ [.get k]) = insertions steps := insertions_concat steps _
      simp only [lastInserted?, hsame]
      exact ih.get k
    | insert k v =>
      simp only [lastInserted?_insert]
      refine ih.insert_of (fun hzero => ?_) (fun k' v' hne hlast => ?_) (if_pos rfl)
      · exact throughout_of_slots_eq_nil ((h.after steps).slots_eq_nil hzero)
      · rwa [if_neg (Ne.symm hne)]
    | clear => exact throughout_clear

/-- **Nothing is dropped while there is room** for all keys for which values were inserted. -/
theorem keys_after (hkeys : c.keys = [])
    (hroom : (keysInserted steps).eraseDups.length ≤ c.capacity) :
    (c.after steps).keys = (keysInserted steps).eraseDups := by
  induction steps using List.reverseRecOn with
  | nil => exact hkeys
  | append_singleton steps s ih =>
    rw [after_concat]
    rw [keysInserted, insertions_concat] at hroom ⊢
    cases s with
    | get k =>
      rw [perform, keys_get]
      exact ih hroom
    | insert k v =>
      rw [Step.record, List.map_append, List.map_singleton] at hroom ⊢
      have hbefore := ih (Nat.le_trans
        (length_eraseDups_le_of_subset (List.subset_append_left _ _)) hroom)
      exact keys_insert hbefore (by rwa [capacity_after]) v
    | clear => rfl

/-- As long as there is room for all keys, each of them has the value that was inserted last. -/
theorem find?_after (h : c.WellFormed) (hkeys : c.keys = [])
    (hroom : (keysInserted steps).eraseDups.length ≤ c.capacity) (k : κ) :
    (c.after steps).find? k = lastInserted? steps k := by
  have hkept := keys_after hkeys hroom
  by_cases hk : k ∈ keysInserted steps
  · obtain ⟨v, hv⟩ : ∃ v, (c.after steps).find? k = some v :=
      exists_find?_of_mem (by rwa [hkept, List.mem_eraseDups])
    rw [hv, (throughout_after h hkeys steps).of_find? hv]
  · rw [lastInserted?_eq_none_iff.2 hk, find?_eq_none_iff, hkept, List.mem_eraseDups]
    exact hk

/-! ### Hits and misses -/

theorem hits_add_misses_perform (c : BoundedCache κ ν) (s : Step κ ν) :
    (c.perform s).hits + (c.perform s).misses = c.hits + c.misses + if s.isGet then 1 else 0 := by
  cases s with
  | get k =>
    cases hk : c.find? k <;> simp only [perform, get, hk, Step.isGet, if_true] <;> omega
  | insert k v =>
    obtain ⟨slots, hand, h⟩ := c.exists_insert_eq k v
    rw [perform, h]
    rfl
  | clear => rfl

/-- Every time that a key is asked for, it is a hit or a miss. -/
theorem hits_add_misses_after (c : BoundedCache κ ν) (steps : List (Step κ ν)) :
    (c.after steps).hits + (c.after steps).misses
      = c.hits + c.misses + steps.countP Step.isGet := by
  induction steps using List.reverseRecOn with
  | nil => rfl
  | append_singleton steps s ih =>
    rw [after_concat, hits_add_misses_perform, ih, List.countP_append, List.countP_singleton,
      Nat.add_assoc]

theorem countP_isGet_stepsOf (c : BoundedCache κ ν) (op : Op κ ν ε) :
    (c.stepsOf op).countP Step.isGet = if op.isGet then 1 else 0 := by
  cases op with
  | step s => exact List.countP_singleton
  | getOrInsert k result =>
    have hinserts : (result.toOption.toList.map (Step.insert k)).countP Step.isGet = 0 := by
      simp [Step.isGet]
    rw [stepsOf, List.countP_cons_of_pos rfl]
    split
    · rw [hinserts]
      rfl
    · rfl

theorem countP_isGet_history (c : BoundedCache κ ν) (ops : List (Op κ ν ε)) :
    (c.history ops).countP Step.isGet = ops.countP Op.isGet := by
  induction ops generalizing c with
  | nil => rfl
  | cons op ops ih =>
    rw [history, List.countP_append, countP_isGet_stepsOf, ih, List.countP_cons, Nat.add_comm]

/-! ### What users get -/

/-- **Bounded caches give what was inserted last.** Whatever users do with a cache that was empty,
it never has more entries than its capacity, nor two entries for one key. What it gives for a key is
the value of the last insertion for this key since it was last cleared, and is not computed again
then. A value that has just been inserted is given, if anything can be kept. While there is room for
all different keys for which values were inserted since the cache was last cleared, it has all of
them, each with its last value. When it gives nothing for a key, a value is computed; if the
computation fails, nothing is stored, and only a miss is counted. And it counts a hit or a miss
every time that it is asked for a key. -/
theorem bounded_caches_give_last_insertions {m : Type → Type} [Monad m] (capacity : Nat)
    (ops : List (Op κ ν ε)) :
    let new : BoundedCache κ ν := { capacity }
    let c := new.runAll ops
    let steps := new.history ops
    (c.size ≤ capacity ∧ c.keys.Nodup) ∧
    (∀ k v, (c.get k).1 = some v → lastInserted? steps k = some v ∧
      ∀ compute : m (Except ε ν), c.getOrInsert k compute = pure (.ok v, (c.get k).2)) ∧
    (0 < capacity → ∀ k v, ((c.insert k v).get k).1 = some v) ∧
    ((keysInserted steps).eraseDups.length ≤ capacity →
      c.keys = (keysInserted steps).eraseDups ∧ ∀ k, (c.get k).1 = lastInserted? steps k) ∧
    (∀ k, (c.get k).1 = none →
      (∀ compute : m (Except ε ν), c.getOrInsert k compute = do
        let result ← compute
        return (result, c.run (.getOrInsert k result))) ∧
      ∀ e : ε, c.run (.getOrInsert k (.error e)) = { c with misses := c.misses + 1 }) ∧
    c.hits + c.misses = ops.countP Op.isGet := by
  intro new c steps
  have hc : c = new.after steps := new.runAll_eq_after ops
  have hnew : new.WellFormed := wellFormed_of_slots_eq_nil rfl rfl
  have hcapacity : c.capacity = capacity := by rw [hc, capacity_after]
  have hwellFormed : c.WellFormed := hc ▸ hnew.after steps
  simp only [get_fst]
  refine ⟨⟨?_, hwellFormed.nodup_keys⟩, fun k v hv => ⟨?_, getOrInsert_of_find? hv⟩,
    fun hpos k v => ?_, fun hroom => ?_,
    fun k hk => ⟨getOrInsert_of_find?_eq_none hk, run_getOrInsert_error hk⟩, ?_⟩
  · rw [← hcapacity]
    exact hwellFormed.size_le
  · have hlast : c.Throughout fun k v => lastInserted? steps k = some v :=
      hc ▸ throughout_after hnew rfl steps
    exact hlast.of_find? hv
  · exact find?_insert (by omega) v
  · rw [hc]
    exact ⟨keys_after rfl hroom, find?_after hnew rfl hroom⟩
  · rw [hc, hits_add_misses_after, countP_isGet_history]
    exact Nat.zero_add _

/-- When both entries are marked, the first one makes room for a third key. After the cache was
cleared there is room for two keys again. -/
theorem bounded_caches_give_last_insertions_evicting :
    let new : BoundedCache Nat Nat := { capacity := 2 }
    let ops : List (Op Nat Nat Unit) :=
      [.step (.insert 1 10), .step (.insert 2 20), .step (.get 1), .getOrInsert 2 (.ok 99),
        .getOrInsert 3 (.ok 30), .getOrInsert 4 (.error ())]
    let c := new.runAll ops
    let cleared : List (Op Nat Nat Unit) :=
      ops ++ [.step .clear, .getOrInsert 5 (.ok 50), .step (.insert 6 60), .step (.insert 5 51)]
    c.keys = [2, 3] ∧ lastInserted? (new.history ops) 2 = some 20 ∧
      ((c.insert 1 11).get 1).1 = some 11 ∧
      c.run (.getOrInsert 1 (.error ())) = { c with misses := c.misses + 1 } ∧
      c.hits + c.misses = 4 ∧ ((new.runAll cleared).get 5).1 = some 51 := by
  intro new ops c cleared
  obtain ⟨-, hlast, hinsert, -, hfails, hcount⟩ :=
    bounded_caches_give_last_insertions (m := Id) 2 ops
  obtain ⟨-, -, -, hroom, -⟩ := bounded_caches_give_last_insertions (m := Id) 2 cleared
  have hkept : (c.get 2).1 = some 20 := by decide
  have hdropped : (c.get 1).1 = none := by decide
  refine ⟨by decide, (hlast 2 20 hkept).1, hinsert (by decide) 1 11, (hfails 1 hdropped).2 (),
    hcount, ?_⟩
  exact ((hroom (by decide)).2 5).trans (by decide)

end Clearance.BoundedCache
