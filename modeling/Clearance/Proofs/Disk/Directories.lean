import Clearance.Proofs.Keeping
import Clearance.Disk.Basic

/-!
# Making directories

To make a directory adds directories to a disk and does nothing else, also if it fails halfway.
Nothing is added if the directory is there.

## Main definitions

* `Clearance.Disk.Extends` — disks with more directories.

## Main results

* `Clearance.Disk.keeps_makeDirs`
* `Clearance.Disk.run_makeDirs_of_isDirectory`
-/

namespace Clearance

namespace Disk

variable {d d' d'' : Disk} {place : Place} {path : String}

/-- All that is on a disk is on another one, on which there is nothing else but directories. -/
structure Extends (d d' : Disk) : Prop where
  /-- What is on the disk stays as it is. -/
  kept {place : Place} {e : DiskEntry} (h : d.get? place = some e) : d'.get? place = some e
  /-- What is new is a directory. -/
  new {place : Place} {e : DiskEntry} (h : d'.get? place = some e) (hnew : d.get? place = none) :
    e = .directory

theorem Extends.refl (d : Disk) : Extends d d where
  kept h := h
  new h hnew := by
    rw [h] at hnew
    cases hnew

theorem Extends.trans (h : Extends d d') (h' : Extends d' d'') : Extends d d'' where
  kept he := h'.kept (h.kept he)
  new {place e''} he'' hnew := by
    cases he' : d'.get? place with
    | none => exact h'.new he'' he'
    | some e' =>
      have hsame := h'.kept he'
      rw [he''] at hsame
      cases hsame
      exact h.new he' hnew

theorem get?_setEntry {e : DiskEntry} {p : Place} (hplace : place ≠ []) :
    (d.setEntry place e).get? p = if place = p then some e else d.get? p := by
  cases p with
  | nil => rw [if_neg hplace]; rfl
  | cons name names =>
    simp only [get?, setEntry, Std.ExtTreeMap.getElem?_insert, Std.LawfulEqCmp.compare_eq_iff_eq]

/-- A directory is made where there is nothing. -/
theorem extends_setEntry (hnone : d.get? place = none) :
    Extends d (d.setEntry place .directory) := by
  have hplace : place ≠ [] := by
    rintro rfl
    cases hnone
  refine ⟨fun {p e} h => ?_, fun {p e} h hnew => ?_⟩
  · rw [get?_setEntry hplace, if_neg]
    · exact h
    · rintro rfl
      rw [hnone] at h
      cases h
  · rw [get?_setEntry hplace] at h
    split at h
    · cases h
      rfl
    · rw [hnew] at h
      cases h

theorem keeps_makeDir (names : List String) : Keeps (Extends d) (makeDir names) fun _ => True := by
  refine keeps_get_bind fun d' hd' => (keeps_lift _).bind fun place _ => ?_
  cases hentry : d'.get? place with
  | some e => exact keeps_throw _
  | none => exact fun _ _ => ⟨hd'.trans (extends_setEntry hentry), fun _ _ => trivial⟩

theorem keeps_ensureDir (names : List String) :
    Keeps (Extends d) (ensureDir names) fun _ => True := by
  refine keeps_get_bind fun d' _ => ?_
  split
  · exact keeps_pure trivial
  · exact keeps_makeDir names

theorem keeps_ensureNested : ∀ around : List (List String),
    Keeps (Extends d) (ensureNested around) fun _ => True
  | [] => keeps_pure trivial
  | names :: around => by
    refine (keeps_ensureDir names).tryCatch fun fault => ?_
    split
    · exact (keeps_ensureNested around).bind fun _ _ => keeps_ensureDir names
    · exact keeps_throw _

/-- **Making a directory** adds directories to a disk, and nothing else. -/
theorem keeps_makeDirs (path : String) : Keeps (Extends d) (makeDirs path) fun _ => True := by
  unfold makeDirs
  split
  · exact keeps_pure trivial
  · exact keeps_ensureNested _

theorem extends_makeDirs (path : String) (d : Disk) : Extends d ((makeDirs path).run.run d).2 :=
  (keeps_makeDirs path d (.refl d)).1

/-- There is nothing to be made if the directory is there. -/
theorem run_makeDirs_of_isDirectory (hdir : d.isDirectory (names path) = true) :
    (makeDirs path).run.run d = (.ok (), d) := by
  have hensure : (ensureDir (names path)).run.run d = (.ok (), d) := by
    rw [ensureDir, run_get_bind, if_pos hdir]
    rfl
  rw [makeDirs]
  split
  · rfl
  · rw [ensureNested, ExceptT.run_tryCatch, StateT.run_bind, hensure]
    rfl

end Disk

end Clearance
