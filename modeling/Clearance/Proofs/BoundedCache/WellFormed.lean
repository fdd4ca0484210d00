import Clearance.Proofs.BoundedCache.Keys

/-!
# Well-formed caches

A full cache loses exactly one entry when it makes room for a new key. So it never has more entries
than its capacity and no two entries for one key, and its hand never points behind the last slot.

## Main definitions

* `Clearance.BoundedCache.WellFormed` — caches with room for their entries, different keys, and the
  hand at one of the slots.

## Main results

* `Clearance.BoundedCache.WellFormed.evict` — making room.
* `Clearance.BoundedCache.WellFormed.get`, `Clearance.BoundedCache.WellFormed.insert`,
  `Clearance.BoundedCache.wellFormed_clear` — the operations.
-/

namespace Clearance.BoundedCache

open scoped List

variable {κ ν : Type} {c : BoundedCache κ ν}

/-- A cache with room for its entries, which have different keys, and with the hand at one of the
slots. -/
structure WellFormed (c : BoundedCache κ ν) : Prop where
  /-- There is room for the entries. -/
  size_le : c.size ≤ c.capacity
  /-- No key has two entries. -/
  nodup_keys : c.keys.Nodup
  /-- The hand is at a slot. -/
  handInside : c.HandInside

theorem wellFormed_of_slots_eq_nil (h : c.slots = []) (hhand : c.hand = none) : c.WellFormed where
  size_le := by simp [size, h]
  nodup_keys := by simp [keys, h]
  handInside := by simp [HandInside, hhand]

theorem wellFormed_clear (c : BoundedCache κ ν) : c.clear.WellFormed :=
  wellFormed_of_slots_eq_nil rfl rfl

namespace WellFormed

/-- Without capacity there are no entries. -/
theorem slots_eq_nil (h : c.WellFormed) (hzero : c.capacity = 0) : c.slots = [] := by
  have hsize := h.size_le
  rw [hzero, size] at hsize
  exact List.length_eq_zero_iff.1 (Nat.le_zero.1 hsize)

/-- Caches with the same keys and the hand at the same place. -/
theorem congr {c' : BoundedCache κ ν} (h : c.WellFormed) (hcapacity : c'.capacity = c.capacity)
    (hkeys : c'.keys = c.keys) (hhand : c'.hand = c.hand) : c'.WellFormed := by
  have hsize : c'.size = c.size := by rw [← length_keys, ← length_keys, hkeys]
  refine ⟨?_, hkeys ▸ h.nodup_keys, fun i hi => ?_⟩
  · rw [hsize, hcapacity]
    exact h.size_le
  · have hlt : i < c.size := h.handInside i (hhand ▸ hi)
    rwa [← hsize] at hlt

/-- Where there is room, an entry with a new key goes behind the others. -/
theorem push (h : c.WellFormed) {s : Slot κ ν} (hroom : c.size < c.capacity)
    (hnew : s.key ∉ c.keys) : WellFormed { c with slots := c.slots ++ [s] } where
  size_le := by
    rw [size, List.length_append]
    exact hroom
  nodup_keys := by
    rw [keys, List.map_append, List.nodup_append]
    refine ⟨h.nodup_keys, List.pairwise_singleton _ _, fun k hk k' hk' heq => hnew ?_⟩
    rw [List.map_singleton, List.mem_singleton] at hk'
    rwa [← hk', ← heq]
  handInside i hi := by
    have hlt := h.handInside i hi
    rw [List.length_append]
    exact Nat.lt_add_right _ hlt

/-- A full cache has room when an entry has gone. -/
theorem evict (h : c.WellFormed) (hne : c.slots ≠ []) :
    c.evict.WellFormed ∧ c.evict.size + 1 = c.size ∧ c.evict.keys ⊆ c.keys := by
  obtain ⟨e, hentries, hhand⟩ := exists_perm_evict h.handInside hne
  have hperm : e.1 :: c.evict.keys ~ c.keys := by
    rw [keys_eq_map_entries, keys_eq_map_entries]
    exact hentries.map Prod.fst
  have hsize : c.evict.size + 1 = c.size := by
    rw [← length_keys, ← length_keys, ← hperm.length_eq, List.length_cons]
  refine ⟨⟨?_, (List.nodup_cons.1 (hperm.nodup_iff.2 h.nodup_keys)).2, hhand⟩, hsize, ?_⟩
  · rw [capacity_evict]
    exact Nat.le_trans (Nat.le_of_lt (Nat.lt_of_succ_le (Nat.le_of_eq hsize))) h.size_le
  · exact fun k' hk' => hperm.subset (List.mem_cons_of_mem e.1 hk')

variable [DecidableEq κ]

theorem get (h : c.WellFormed) (k : κ) : (c.get k).2.WellFormed := by
  refine h.congr (c.capacity_get k) (c.keys_get k) ?_
  cases hk : c.find? k <;> simp only [BoundedCache.get, hk]

theorem insert (h : c.WellFormed) (k : κ) (v : ν) : (c.insert k v).WellFormed := by
  by_cases hzero : c.capacity = 0
  · rwa [insert_of_capacity_eq_zero hzero]
  by_cases hk : k ∈ c.keys
  · refine h.congr (c.capacity_insert k v) (keys_insert_of_mem hk v) ?_
    rw [BoundedCache.insert, if_neg hzero, if_pos (by simpa [keys] using hk)]
  · rw [BoundedCache.insert, if_neg hzero, if_neg (by simpa [keys] using hk)]
    by_cases hfull : c.capacity ≤ c.slots.length
    · have hne : c.slots ≠ [] := by
        rw [← List.length_pos_iff]
        omega
      obtain ⟨hevict, hsize, hkeys⟩ := h.evict hne
      rw [if_pos hfull]
      refine hevict.push ?_ fun hmem => hk (hkeys hmem)
      rw [capacity_evict]
      exact Nat.lt_of_lt_of_le (Nat.lt_of_succ_le (Nat.le_of_eq hsize)) h.size_le
    · rw [if_neg hfull]
      exact h.push (Nat.not_le.1 hfull) hk

end WellFormed

end Clearance.BoundedCache
