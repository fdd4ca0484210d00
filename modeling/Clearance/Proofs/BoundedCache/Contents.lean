import Clearance.Proofs.BoundedCache.Eviction

/-!
# What a cache can hold

A relation between keys and values *holds throughout* a cache when it holds of every entry. It then
still does when the cache has been asked for a key, when entries have made room for others, and when
a value has been inserted that the relation allows. A cache of computed values therefore never gives
anything but what would be computed.

## Main definitions

* `Clearance.BoundedCache.Throughout` — relations that hold of every entry.

## Main results

* `Clearance.BoundedCache.Throughout.get`, `Clearance.BoundedCache.Throughout.insert`,
  `Clearance.BoundedCache.throughout_clear` — the operations.
* `Clearance.BoundedCache.Throughout.of_find?` — what is found satisfies the relation.
-/

namespace Clearance.BoundedCache

variable {κ ν : Type} {R : κ → ν → Prop} {c : BoundedCache κ ν}

/-- A relation between keys and values that holds of every entry. -/
def Throughout (R : κ → ν → Prop) (c : BoundedCache κ ν) : Prop := ∀ s ∈ c.slots, R s.key s.value

theorem throughout_of_slots_eq_nil (h : c.slots = []) : c.Throughout R := by
  simp [Throughout, h]

theorem throughout_clear : c.clear.Throughout R := throughout_of_slots_eq_nil rfl

theorem throughout_iff : c.Throughout R ↔ ∀ e ∈ c.entries, R e.1 e.2 := by
  rw [entries, List.forall_mem_map]
  rfl

namespace Throughout

theorem evict (h : c.Throughout R) : c.evict.Throughout R :=
  throughout_iff.2 fun e he => throughout_iff.1 h e (c.entries_evict_subset he)

/-! ### Reading and writing -/

variable [DecidableEq κ]

theorem of_find? (h : c.Throughout R) {k : κ} {v : ν} (hv : c.find? k = some v) : R k v := by
  obtain ⟨s, hs, rfl⟩ := Option.map_eq_some_iff.1 hv
  have hkey : s.key = k := by simpa using List.find?_some hs
  exact hkey ▸ h s (List.mem_of_find?_eq_some hs)

theorem get (h : c.Throughout R) (k : κ) : (c.get k).2.Throughout R := by
  cases hk : c.find? k with
  | none =>
    simp only [BoundedCache.get, hk]
    exact h
  | some v =>
    simp only [BoundedCache.get, hk, Throughout, List.mem_map]
    rintro s ⟨t, ht, rfl⟩
    split <;> exact h t ht

/-- When a value is inserted for a key, another relation holds throughout that asks nothing more of
other keys and allows the value. A cache that keeps nothing is not changed. -/
theorem insert_of {S : κ → ν → Prop} {k : κ} {v : ν} (h : c.Throughout R)
    (hdisabled : c.capacity = 0 → c.Throughout S) (hother : ∀ k' v', k' ≠ k → R k' v' → S k' v')
    (hv : S k v) : (c.insert k v).Throughout S := by
  unfold BoundedCache.insert
  split
  · next hzero => exact hdisabled hzero
  split
  · simp only [Throughout, List.mem_map]
    rintro s ⟨t, ht, rfl⟩
    split
    · exact hv
    · next hne => exact hother _ _ hne (h t ht)
  · next hnew =>
    have hothers : c.Throughout fun k' v' => k' ≠ k ∧ R k' v' := fun s hs =>
      ⟨fun heq => hnew (List.any_eq_true.2 ⟨s, hs, by simpa using heq⟩), h s hs⟩
    have hroom : Throughout (fun k' v' => k' ≠ k ∧ R k' v')
        (if c.capacity ≤ c.slots.length then c.evict else c) := by
      split
      · exact hothers.evict
      · exact hothers
    simp only [Throughout, List.mem_append, List.mem_singleton]
    rintro s (hs | rfl)
    · exact hother _ _ (hroom s hs).1 (hroom s hs).2
    · exact hv

theorem insert (h : c.Throughout R) {k : κ} {v : ν} (hv : R k v) : (c.insert k v).Throughout R :=
  h.insert_of (fun _ => h) (fun _ _ _ hR => hR) hv

end Throughout

variable [DecidableEq κ]

theorem get_fst (c : BoundedCache κ ν) (k : κ) : (c.get k).1 = c.find? k := by
  cases hk : c.find? k <;> simp only [get, hk]

end Clearance.BoundedCache
