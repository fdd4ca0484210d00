import Clearance.Codec.LabelList
import Clearance.Proofs.Codec.Reads
import Clearance.Proofs.Codec.Writes
import Clearance.Proofs.Distinct

/-!
# Lists of labels are read back

A list of labels is written as one record, as long as its lengths can be written in four bytes. A
stored value that consists of such records is read back as the labels of all records, as UTF-8 and
each at its first place only.

## Main definitions

* `Clearance.LabelList.record` — the bytes of a list of labels.
* `Clearance.LabelList.Small` — lists of labels whose lengths can be written.
* `Clearance.LabelList.stored` — labels as they come back from a store.
* `Clearance.LabelList.Records` — values that consist of records.

## Main results

* `Clearance.LabelList.writes_encode`, `Clearance.LabelList.small_of_run_encode` — writing.
* `Clearance.LabelList.reads_decodeRecord`, `Clearance.LabelList.decode_records` — reading.
-/

namespace Clearance.LabelList

open DecodeM EncodeM

variable {τ : Type} {E : Error → Prop} {ls : List Label}

/-- The bodies of labels. -/
def bodies (ls : List Label) : List Bytes := ls.map Label.utf8Bytes

/-- The lengths of the bodies and the bodies. -/
def fields (bss : List Bytes) : Bytes := bss.flatMap (fun bs => leBytes 4 bs.length) ++ bss.flatten

/-- The bytes of a list of labels. -/
def record (ls : List Label) : Bytes := leBytes 4 (bodies ls).length ++ fields (bodies ls)

/-- Whether all lengths in the record of a list of labels can be written. -/
def Small (ls : List Label) : Prop :=
  ls.length < wordSize ∧ ∀ l ∈ ls, l.utf8Bytes.length < wordSize

/-- Labels as they come back from a store: as UTF-8, each at its first place only. -/
def stored (ls : List Label) : List Label := (ls.map Label.asUtf8).eraseDups

/-- The first label comes back first. -/
theorem stored_cons (l : Label) (ls : List Label) : stored (l :: ls)
    = l.asUtf8 :: ((ls.map Label.asUtf8).filter fun m => !m == l.asUtf8).eraseDups :=
  List.eraseDups_cons

theorem Small.length_bodies (h : Small ls) : (bodies ls).length < wordSize := by
  rw [bodies, List.length_map]
  exact h.1

theorem Small.length_of_mem (h : Small ls) {bs : Bytes} (hbs : bs ∈ bodies ls) :
    bs.length < wordSize := by
  obtain ⟨l, hl, rfl⟩ := List.mem_map.1 hbs
  exact h.2 l hl

/-! ### Writing -/

theorem writes_putLength {length : Nat} (h : length < wordSize) (table : τ) :
    Writes E (putLength length) table () (leBytes 4 length) table := by
  unfold putLength
  rw [lengthField, if_pos h]
  exact writes_put _ table

/-- **A list of labels is written as a record.** -/
theorem writes_encode (h : Small ls) (table : τ) :
    Writes E (encode ls) table () (record ls) table :=
  (writes_putLength h.length_bodies table).bind <|
    (writes_forM fun _ hbs => writes_putLength (h.length_of_mem hbs) table).bind
      (writes_putAll table _)

theorem small_of_run_putLength {length : Nat} {sheet sheet' : Sheet τ}
    (h : (putLength length).run.run sheet = (.ok (), sheet')) : length < wordSize := by
  by_cases hshort : length < wordSize
  · exact hshort
  · rw [putLength, lengthField, if_neg hshort] at h
    cases h

theorem small_of_run_forM : ∀ {bss : List Bytes} {sheet sheet' : Sheet τ},
    (bss.forM fun bs => putLength bs.length).run.run sheet = (.ok (), sheet') →
      ∀ bs ∈ bss, bs.length < wordSize
  | [], _, _, _, bs, hbs => by cases hbs
  | b :: bss, sheet, _, h, bs, hbs => by
    obtain ⟨_, _, hfirst, hrest⟩ := run_bind_eq_ok h
    rcases List.mem_cons.1 hbs with rfl | hbs
    · exact small_of_run_putLength hfirst
    · exact small_of_run_forM hrest bs hbs

/-- Only lists whose lengths can be written are written. -/
theorem small_of_run_encode {sheet sheet' : Sheet τ}
    (h : (encode ls).run.run sheet = (.ok (), sheet')) : Small ls := by
  obtain ⟨_, _, hcount, h⟩ := run_bind_eq_ok h
  obtain ⟨_, _, hlengths, -⟩ := run_bind_eq_ok h
  have hsmall := small_of_run_putLength hcount
  rw [List.length_map] at hsmall
  exact ⟨hsmall, fun l hl => small_of_run_forM hlengths _ (List.mem_map_of_mem hl)⟩

/-! ### Reading a record -/

theorem reads_lengths {bss : List Bytes} (h : ∀ bs ∈ bss, bs.length < wordSize) :
    Reads ((List.replicate bss.length 4).mapM ByteReader.number)
      (bss.flatMap fun bs => leBytes 4 bs.length) (bss.map List.length) := by
  rw [← List.map_const', List.mapM_map]
  exact reads_mapM fun bs hbs => ByteReader.reads_number (h bs hbs)

theorem reads_bodies (bss : List Bytes) :
    Reads ((bss.map List.length).mapM fun length => do return { bytes := ← ByteReader.take length })
      bss.flatten (bss.map fun bs => ({ bytes := bs } : Label)) := by
  rw [List.mapM_map, ← List.flatMap_id]
  exact reads_mapM fun bs _ => (ByteReader.reads_take rfl).bind_nil (reads_pure _)

theorem le_length_fields (bss : List Bytes) : 4 * bss.length ≤ (fields bss).length := by
  induction bss with
  | nil => exact Nat.le_refl 0
  | cons bs bss ih =>
    simp only [fields, List.flatMap_cons, List.flatten_cons, List.length_append, length_leBytes,
      List.length_cons] at ih ⊢
    omega

theorem map_asUtf8 (ls : List Label) :
    (bodies ls).map (fun bs => ({ bytes := bs } : Label)) = ls.map Label.asUtf8 := by
  rw [bodies, List.map_map]
  rfl

/-- **A list of labels is read back from its record.** -/
theorem reads_decodeRecord (h : Small ls) :
    Reads decodeRecord (record ls) (ls.map Label.asUtf8) := by
  intro rest offset
  have hcount :=
    ByteReader.reads_number (show (bodies ls).length < 1 <<< (8 * 4) from h.length_bodies)
  have hfields := (reads_lengths fun _ hbs => h.length_of_mem hbs).bind (reads_bodies (bodies ls))
  have hleft : ¬ (fields (bodies ls) ++ rest).length < 4 * (bodies ls).length := by
    have := le_length_fields (bodies ls)
    rw [List.length_append]
    omega
  unfold decodeRecord
  rw [record, List.append_assoc, run_bind_ok (hcount _ offset), run_get_bind]
  dsimp only
  rw [if_neg hleft, ← map_asUtf8, List.length_append, ← Nat.add_assoc]
  exact hfields rest _

/-! ### Reading a value -/

/-- Adding labels to a list keeps of all labels the first occurrences. -/
theorem union_eraseDups : ∀ (ls known : List Label),
    union known.eraseDups ls = (known ++ ls).eraseDups
  | [], known => by rw [union, List.append_nil]
  | l :: ls, known => by
    rw [union, ← eraseDups_concat, union_eraseDups ls, List.append_assoc, List.singleton_append]

theorem length_record_pos (ls : List Label) : 0 < (record ls).length := by
  rw [record, List.length_append, length_leBytes]
  omega

theorem run_decodeRecords : ∀ (lss : List (List Label)) (known : List Label) (fuel offset : Nat),
    (∀ ls ∈ lss, Small ls) → lss.length ≤ fuel →
      ((decodeRecords fuel known.eraseDups).run.run ⟨lss.flatMap record, offset⟩).1
        = .ok (known ++ lss.flatMap (List.map Label.asUtf8)).eraseDups
  | [], known, fuel, offset, _, _ => by
    simp only [List.flatMap_nil, List.append_nil]
    cases fuel with
    | zero => rfl
    | succ fuel => rfl
  | ls :: lss, known, fuel + 1, offset, hsmall, hfuel => by
    have hrecord := reads_decodeRecord (hsmall ls List.mem_cons_self)
    have hnonempty : ¬ (record ls ++ lss.flatMap record).isEmpty = true := by
      have := length_record_pos ls
      rw [List.isEmpty_iff_length_eq_zero, List.length_append]
      omega
    have hrest := run_decodeRecords lss (known ++ ls.map Label.asUtf8) fuel
      (offset + (record ls).length) (fun ls hls => hsmall ls (List.mem_cons_of_mem _ hls))
      (Nat.le_of_succ_le_succ hfuel)
    simp only [List.flatMap_cons]
    rw [decodeRecords, run_get_bind]
    dsimp only
    rw [if_neg hnonempty, run_bind_ok (hrecord _ offset), union_eraseDups, hrest, List.append_assoc]

/-- **A value that consists of records is read back**, each label at its first place only. -/
theorem decode_records {lss : List (List Label)} (h : ∀ ls ∈ lss, Small ls) :
    decode (lss.flatMap record) = .ok (lss.flatMap (List.map Label.asUtf8)).eraseDups := by
  have hfuel : ∀ lss : List (List Label), lss.length ≤ (lss.flatMap record).length := by
    intro lss
    induction lss with
    | nil => exact Nat.le_refl 0
    | cons ls lss ih =>
      have := length_record_pos ls
      rw [List.flatMap_cons, List.length_append, List.length_cons]
      omega
  exact run_decodeRecords lss [] _ 0 h (hfuel lss)

/-- Whether a value consists of the records of lists with a property. -/
def Records (P : List Label → Prop) (v : Bytes) : Prop :=
  ∃ lss : List (List Label), (∀ ls ∈ lss, Small ls ∧ P ls) ∧ v = lss.flatMap record

theorem records_record {P : List Label → Prop} (hsmall : Small ls) (h : P ls) :
    Records P (record ls) :=
  ⟨[ls], List.forall_mem_singleton.2 ⟨hsmall, h⟩, (List.flatMap_singleton ..).symm⟩

theorem Records.append {P : List Label → Prop} {v w : Bytes} (hv : Records P v)
    (hw : Records P w) : Records P (v ++ w) := by
  obtain ⟨lss, hlss, rfl⟩ := hv
  obtain ⟨lss', hlss', rfl⟩ := hw
  exact ⟨lss ++ lss', List.forall_mem_append.2 ⟨hlss, hlss'⟩, List.flatMap_append.symm⟩

/-- **A value that consists of records is read back** as their labels. -/
theorem Records.exists_decode {P : List Label → Prop} {v : Bytes} (h : Records P v) :
    ∃ lss : List (List Label), (∀ ls ∈ lss, P ls) ∧ decode v = .ok (stored lss.flatten) := by
  obtain ⟨lss, hlss, rfl⟩ := h
  refine ⟨lss, fun ls hls => (hlss ls hls).2, ?_⟩
  rw [decode_records fun ls hls => (hlss ls hls).1, stored, List.map_flatten, List.flatMap_def]

theorem decode_record (h : Small ls) : decode (record ls) = .ok (stored ls) := by
  have hsmall : ∀ ls' ∈ [ls], Small ls' := fun ls' hls' => by rwa [List.mem_singleton.1 hls']
  have hone := decode_records hsmall
  rwa [List.flatMap_singleton, List.flatMap_singleton] at hone

end Clearance.LabelList
