import Clearance.Label.Basic
import Clearance.Node.Basic

/-!
# Dumps

A dump lists what is recorded: for each pattern with an entry its list of labels, once, in the order
of the patterns. What is recorded determines its dump. So two stores in which the same is recorded
have the same dump, however it came to be recorded.

## Main definitions

* `Clearance.IsDump` — the dumps of tables.

## Main results

* `Clearance.IsDump.unique` — a table has one dump.
* `Clearance.isDump_mergeSort` — entries of different patterns are sorted into a dump.
-/

namespace Clearance

variable {table : Triple → Option (List Label)} {entries entries' : List (Triple × List Label)}

/-- Whether entries are those of a table of lists of labels by patterns, each once, in the order of
their patterns. -/
structure IsDump (table : Triple → Option (List Label)) (entries : List (Triple × List Label)) :
    Prop where
  /-- The patterns ascend. -/
  ascending : entries.Pairwise fun e f => compare e.1 f.1 = .lt
  /-- The entries are those of the table. -/
  mem_iff (q : Triple) (ls : List Label) : (q, ls) ∈ entries ↔ table q = some ls

theorem IsDump.nodup (h : IsDump table entries) : entries.Nodup := by
  refine h.ascending.imp fun {e f} hlt heq => ?_
  have hself : compare e.1 f.1 = .eq := Std.LawfulEqCmp.compare_eq_iff_eq.2 (congrArg Prod.fst heq)
  rw [hself] at hlt
  cases hlt

/-- **A table has one dump.** -/
theorem IsDump.unique (h : IsDump table entries) (h' : IsDump table entries') :
    entries = entries' := by
  have hperm : entries.Perm entries' :=
    (List.perm_ext_iff_of_nodup h.nodup h'.nodup).2 fun (q, ls) =>
      (h.mem_iff q ls).trans (h'.mem_iff q ls).symm
  refine hperm.eq_of_pairwise (fun e f _ _ hlt hgt => ?_) h.ascending h'.ascending
  rw [Std.OrientedCmp.gt_of_lt hlt] at hgt
  cases hgt

/-- **Entries of different patterns are sorted into a dump.** -/
theorem isDump_mergeSort (hdistinct : entries.Pairwise fun e f => e.1 ≠ f.1)
    (hmem : ∀ q ls, (q, ls) ∈ entries ↔ table q = some ls) :
    IsDump table (entries.mergeSort fun e f => (compare e.1 f.1).isLE) where
  ascending := by
    have htotal (e f : Triple × List Label) :
        ((compare e.1 f.1).isLE || (compare f.1 e.1).isLE) = true := by
      cases hcompare : compare e.1 f.1 with
      | gt => simp [Std.OrientedCmp.lt_of_gt hcompare]
      | _ => rfl
    have hsorted : (entries.mergeSort fun e f => (compare e.1 f.1).isLE).Pairwise
        fun e f => (compare e.1 f.1).isLE = true :=
      List.pairwise_mergeSort (fun _ _ _ => Std.TransCmp.isLE_trans) htotal entries
    have hapart := (List.mergeSort_perm entries fun e f => (compare e.1 f.1).isLE).symm.pairwise
      hdistinct fun h => Ne.symm h
    refine (hsorted.and hapart).imp fun {e f} ⟨hle, hne⟩ => ?_
    cases hcompare : compare e.1 f.1 with
    | lt => rfl
    | eq => exact absurd (Std.LawfulEqCmp.eq_of_compare hcompare) hne
    | gt =>
      rw [hcompare] at hle
      cases hle
  mem_iff q ls := by rw [List.mem_mergeSort, hmem]

end Clearance
