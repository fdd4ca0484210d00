import Clearance.Proofs.Label.Validation
import Clearance.Proofs.PersistentStore.OneByOne
import Clearance.Proofs.PersistentStore.Soundness

/-!
# The values of rows

The value of a row consists of the records of lists of labels that were added, one after the other.
If the lists have passed the check, then the labels that are read from a row can all be read, and
none stands twice: merging brings labels together that no one list had, but a label that was read
from a list is one of its labels, in another charset at most.

## Main definitions

* `Clearance.PersistentStore.Recorded` — databases whose rows are records of lists with a property.

## Main results

* `Clearance.PersistentStore.find?_of_written` — the rows after a batch.
* `Clearance.PersistentStore.Recorded.written` — the values after a batch.
* `Clearance.PersistentStore.Recorded.of_answer` — the labels of triples.
-/

namespace Clearance

open LabelList (Records record stored)

namespace PersistentStore

variable {P : List Label → Prop} {s s' : PersistentStore} {batch : List Change}

/-- The rows after a batch that was written. -/
theorem find?_of_written (h : s.written batch = .ok s') :
    ∃ entries, (entriesOf s.options batch).run.run s.table = (.ok entries, s'.table) ∧
      s'.options = s.options ∧
      s'.patternsLoaded = (s.patternsLoaded || entries.any (·.1.hasWildcard)) ∧
      ∀ space k, s'.db.find? space k
        = (s.db.putAll s.options.mode (entries.map Prod.snd)).find? space k := by
  obtain ⟨entries, table, db, -, hentries, hwrite, hs'⟩ := written_eq_ok (written_reconnected h)
  obtain ⟨nodes, -, rfl⟩ := exists_addTerms_of_write rfl hwrite
  have htable : s'.table = table := congrArg PersistentStore.table hs'
  have hdb : s'.db = s.reconnected.writtenDb entries nodes := congrArg PersistentStore.db hs'
  have hoptions := congrArg PersistentStore.options hs'
  have hloaded := congrArg PersistentStore.patternsLoaded hs'
  refine ⟨entries, htable ▸ hentries, hoptions, hloaded, fun space k => ?_⟩
  rw [hdb]
  exact find?_writtenDb s.reconnected entries nodes space k

/-- Whether all rows of a database are records of lists with a property. -/
def Recorded (P : List Label → Prop) (db : Database) : Prop :=
  ∀ space k v, db.find? space k = some v → Records P v

theorem recorded_fresh (P : List Label → Prop) (dir : String) (options : StoreOptions) :
    Recorded P (fresh dir options).db := by
  intro space k v h
  have hnone : (fresh dir options).db.find? space k = none := by cases space <;> rfl
  rw [hnone] at h
  cases h

/-- **Rows stay records** after every batch that is written. -/
theorem Recorded.written (h : Recorded P s.db) (ht : NodeTable.empty.Extends s.table)
    (hbatch : ∀ c ∈ batch, P c.labels)
    (hwritten : s.written batch = .ok s') : Recorded P s'.db := by
  obtain ⟨entries, hentries, -, -, hfind⟩ := find?_of_written hwritten
  intro space k v hv
  rw [hfind] at hv
  refine Database.forall_find?_putAll (fun hv hw => hv.append hw) h (fun p hp => ?_) space k v hv
  obtain ⟨e, he, rfl⟩ := List.mem_map.1 hp
  obtain ⟨c, hc, hput⟩ := (isPutOf_of_run_entriesOf ht hentries).1 e he
  rw [hput.value_eq]
  exact LabelList.records_record hput.small (hbatch c hc)

/-! ### Labels that can be read -/

/-- The labels of lists that can be read can be read when they come back from a store. -/
theorem valid_stored {lss : List (List Label)} (h : ∀ ls ∈ lss, ∀ l ∈ ls, l.IsReadable) :
    Label.Valid (stored lss.flatten) := by
  refine ⟨nodup_eraseDups _, fun l hl => ?_⟩
  rw [stored, List.mem_eraseDups] at hl
  obtain ⟨l', hl', rfl⟩ := List.mem_map.1 hl
  obtain ⟨ls, hls, hl'⟩ := List.mem_flatten.1 hl'
  exact (h ls hls l' hl').asUtf8

variable (h : Recorded (fun ls => ∀ l ∈ ls, l.IsReadable) s.db)

include h

theorem Recorded.of_recorded {shape : Shape} {key : Triple} {ls : List Label}
    (hls : s.recorded shape key = .ok ls) : Label.Valid ls := by
  unfold recorded at hls
  split at hls
  · cases hls
  · cases hls
    exact Label.valid_nil
  · next bytes hkey =>
    cases hfind : s.db.find? (.ofShape shape) bytes with
    | none =>
      rw [hfind] at hls
      cases hls
      exact Label.valid_nil
    | some v =>
      obtain ⟨lss, hlss, hdecode⟩ := (h _ _ _ hfind).exists_decode
      rw [hfind] at hls
      dsimp only at hls
      rw [hdecode] at hls
      cases hls
      exact valid_stored hlss

/-- **The labels of a triple can be read**, and none stands twice. -/
theorem Recorded.of_answer {t : Triple} {ls : List Label} (hls : s.answer t = .ok ls) :
    Label.Valid ls := by
  have hprobe (shape : Shape) (ls : List Label) (hrun : (ExceptT.mk (m := Id)
      (s.recorded shape (shape.project t))).run = .ok ls) : Label.Valid ls := h.of_recorded hrun
  exact of_run_resolve Label.valid_nil hprobe hls

end PersistentStore

end Clearance
