import Clearance.Proofs.BoundedCache.Contents
import Clearance.Proofs.Distinct

/-!
# The keys of a cache

A cache drops an entry only to make room for a new key when it is full. As long as its keys are
those of some list, in their order and each at its first place only, and there is room for all
different keys of the list, a key that is inserted is one more key of the list and no other key
goes.

## Main definitions

* `Clearance.BoundedCache.keys` — the keys of the entries.

## Main results

* `Clearance.BoundedCache.find?_get`, `Clearance.BoundedCache.find?_insert` — what is found after
  the operations.
* `Clearance.BoundedCache.keys_get`, `Clearance.BoundedCache.keys_insert` — what is kept after them.
-/

namespace Clearance.BoundedCache

variable {κ ν : Type} {c : BoundedCache κ ν} {k : κ}

/-- The keys of the entries, in order. -/
def keys (c : BoundedCache κ ν) : List κ := c.slots.map Slot.key

theorem keys_clear (c : BoundedCache κ ν) : c.clear.keys = [] := rfl

theorem length_keys (c : BoundedCache κ ν) : c.keys.length = c.size := List.length_map _

theorem keys_eq_map_entries (c : BoundedCache κ ν) : c.keys = c.entries.map Prod.fst := by
  rw [entries, List.map_map]
  rfl

variable [DecidableEq κ]

/-! ### The capacity -/

theorem capacity_get (c : BoundedCache κ ν) (k : κ) : (c.get k).2.capacity = c.capacity := by
  cases hk : c.find? k <;> simp only [get, hk]

/-- To keep a value changes nothing but the entries and the hand. -/
theorem exists_insert_eq (c : BoundedCache κ ν) (k : κ) (v : ν) :
    ∃ slots hand, c.insert k v = { c with slots, hand } := by
  unfold insert
  split
  · exact ⟨_, _, rfl⟩
  split
  · exact ⟨_, _, rfl⟩
  · dsimp only
    split
    · obtain ⟨slots, hand, h⟩ := c.exists_evict_eq
      exact ⟨_, _, by rw [h]⟩
    · exact ⟨_, _, rfl⟩

theorem capacity_insert (c : BoundedCache κ ν) (k : κ) (v : ν) :
    (c.insert k v).capacity = c.capacity := by
  obtain ⟨slots, hand, h⟩ := c.exists_insert_eq k v
  rw [h]

/-! ### The operations -/

theorem find?_eq_none_iff : c.find? k = none ↔ k ∉ c.keys := by
  simp [find?, keys]

theorem exists_find?_of_mem (hk : k ∈ c.keys) : ∃ v, c.find? k = some v :=
  Option.ne_none_iff_exists'.1 fun hnone => find?_eq_none_iff.1 hnone hk

theorem mem_keys_of_find? {v : ν} (hv : c.find? k = some v) : k ∈ c.keys := by
  by_cases hk : k ∈ c.keys
  · exact hk
  · rw [find?_eq_none_iff.2 hk] at hv
    cases hv

/-- To ask for a key marks its entry at most. -/
theorem keys_get (c : BoundedCache κ ν) (k : κ) : (c.get k).2.keys = c.keys := by
  cases hk : c.find? k with
  | none => simp only [get, hk, keys]
  | some v =>
    simp only [get, hk, keys, List.map_map]
    refine List.map_congr_left fun s _ => ?_
    simp only [Function.comp_apply]
    split <;> rfl

/-- To ask for a key changes no value. -/
theorem find?_get (c : BoundedCache κ ν) (k k' : κ) : (c.get k).2.find? k' = c.find? k' := by
  cases hk : c.find? k with
  | none =>
    rw [get, hk]
    rfl
  | some v =>
    have hkey : ∀ s : Slot κ ν, (if s.key = k then { s with marked := true } else s).key = s.key :=
      fun s => by split <;> rfl
    have hvalue : ∀ s : Slot κ ν,
        (if s.key = k then { s with marked := true } else s).value = s.value :=
      fun s => by split <;> rfl
    rw [get, hk]
    simp only [find?, List.find?_map, Option.map_map, Function.comp_def, hkey, hvalue]

/-- Without capacity nothing is kept. -/
theorem insert_of_capacity_eq_zero (h : c.capacity = 0) (k : κ) (v : ν) : c.insert k v = c := by
  rw [insert, if_pos h]

theorem keys_insert_of_mem (hk : k ∈ c.keys) (v : ν) : (c.insert k v).keys = c.keys := by
  unfold insert
  split
  · rfl
  · rw [if_pos]
    · simp only [keys, List.map_map]
      refine List.map_congr_left fun s _ => ?_
      simp only [Function.comp_apply]
      split
      · next heq => exact heq.symm
      · rfl
    · simpa [keys] using hk

/-- A key that is new goes behind the others, if there is room. -/
theorem keys_insert_of_lt (hk : k ∉ c.keys) (hroom : c.keys.length < c.capacity) (v : ν) :
    (c.insert k v).keys = c.keys ++ [k] := by
  have hsize : ¬ c.capacity ≤ c.slots.length := by
    simpa [keys] using hroom
  have hnew : ¬ (c.slots.any fun s => s.key = k) = true := by
    simpa [keys] using hk
  rw [insert, if_neg (by omega), if_neg hnew, if_neg hsize]
  simp [keys]

theorem mem_keys_insert (h : c.capacity ≠ 0) (v : ν) : k ∈ (c.insert k v).keys := by
  by_cases hk : k ∈ c.keys
  · rwa [keys_insert_of_mem hk]
  · have hnew : ¬ (c.slots.any fun s => s.key = k) = true := by
      simpa [keys] using hk
    rw [insert, if_neg h, if_neg hnew]
    simp [keys]

/-- What has been inserted is found, whatever was dropped for it. -/
theorem find?_insert (h : c.capacity ≠ 0) (v : ν) : (c.insert k v).find? k = some v := by
  obtain ⟨w, hw⟩ := exists_find?_of_mem (mem_keys_insert (k := k) h v)
  have hheld : (c.insert k v).Throughout fun k' v' => k' = k → v' = v :=
    Throughout.insert_of (R := fun _ _ => True) (fun _ _ => trivial) (fun hzero => absurd hzero h)
      (fun _ _ hne _ heq => absurd heq hne) fun _ => rfl
  rw [hw, hheld.of_find? hw rfl]

/-- **Nothing is dropped while there is room** for all different keys. -/
theorem keys_insert {ks : List κ} (hkeys : c.keys = ks.eraseDups)
    (hroom : (ks ++ [k]).eraseDups.length ≤ c.capacity) (v : ν) :
    (c.insert k v).keys = (ks ++ [k]).eraseDups := by
  by_cases hk : k ∈ ks
  · have hmem : k ∈ c.keys := by rwa [hkeys, List.mem_eraseDups]
    rw [keys_insert_of_mem hmem, eraseDups_concat_of_mem hk, hkeys]
  · have hnew : k ∉ c.keys := by rwa [hkeys, List.mem_eraseDups]
    rw [eraseDups_concat_of_not_mem hk] at hroom ⊢
    rw [List.length_append, List.length_singleton] at hroom
    rw [keys_insert_of_lt hnew (by rw [hkeys]; omega), hkeys]

end Clearance.BoundedCache
