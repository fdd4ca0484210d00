import Clearance.NodeTable
import Clearance.Proofs.Codec.Exactness
import Clearance.Proofs.Codec.LabelList

/-!
# Stored lists of labels are exact

A byte string is a stored value when it can be split into *records*: the number of bodies in four
bytes, the length of each body in four bytes, and the bodies. There is at most one such split.
Reading a value ends with the labels of all bodies, each at its first place only; reading anything
else ends with the finding that the bytes are corrupt. What was written for lists of labels can be
put one behind the other and is read back as one list.

## Main definitions

* `Clearance.LabelList.IsRecord`, `Clearance.LabelList.Splits` — records, and values that consist of
  records.
* `Clearance.LabelList.Drains` — the rounds in which a value is read.

## Main results

* `Clearance.LabelList.takes_decodeRecord` — reading a record.
* `Clearance.LabelList.drains_decodeRecords`, `Clearance.LabelList.Drains.splits_or_corrupt` —
  reading to the end.
* `Clearance.LabelList.decode_exactly_records` — which values can be read, and as what.
-/

namespace Clearance.LabelList

open DecodeM EncodeM

variable {v w : Bytes} {bss : List Bytes} {records : List (List Bytes)} {known : List Label}
  {r : ByteReader} {answer : Except Error (List Label)}

/-- Whether a byte string is the record that holds certain bodies. -/
structure IsRecord (v : Bytes) (bss : List Bytes) : Prop where
  /-- The number of bodies fits its field. -/
  count_lt : bss.length < wordSize
  /-- The length of every body fits its field. -/
  length_lt : ∀ bs ∈ bss, bs.length < wordSize
  /-- The number, the lengths and the bodies follow one another. -/
  bytes_eq : v = leBytes 4 bss.length ++
    (bss.flatMap (fun bs => leBytes 4 bs.length) ++ bss.flatten)

/-- Whether a byte string can be split into records that hold certain bodies. -/
inductive Splits : Bytes → List (List Bytes) → Prop where
  /-- No bytes are no records. -/
  | nil : Splits [] []
  /-- A record stands before other ones. -/
  | cons {v w : Bytes} {bss : List Bytes} {records : List (List Bytes)} (h : IsRecord v bss)
    (hrest : Splits w records) : Splits (v ++ w) (bss :: records)

/-- The labels, in UTF-8, that bodies hold. -/
def labelsOf (bss : List Bytes) : List Label := bss.map fun bs => { bytes := bs, charset := .utf8 }

/-! ### Records -/

theorem bodies_labelsOf (bss : List Bytes) : bodies (labelsOf bss) = bss := by
  rw [bodies, labelsOf, List.map_map]
  exact List.map_id bss

theorem map_asUtf8_labelsOf (bss : List Bytes) :
    (labelsOf bss).map Label.asUtf8 = labelsOf bss := by
  rw [← map_asUtf8, bodies_labelsOf]
  rfl

theorem IsRecord.small (h : IsRecord v bss) : Small (labelsOf bss) := by
  refine ⟨by simpa [labelsOf] using h.count_lt, fun l hl => ?_⟩
  obtain ⟨bs, hbs, rfl⟩ := List.mem_map.1 hl
  exact h.length_lt bs hbs

theorem IsRecord.eq_record (h : IsRecord v bss) : v = record (labelsOf bss) := by
  rw [record, bodies_labelsOf]
  exact h.bytes_eq

theorem IsRecord.length_pos (h : IsRecord v bss) : 0 < v.length := by
  rw [h.eq_record]
  exact length_record_pos _

theorem IsRecord.reads (h : IsRecord v bss) : Reads decodeRecord v (labelsOf bss) := by
  have hreads := reads_decodeRecord h.small
  rwa [← h.eq_record, map_asUtf8_labelsOf] at hreads

theorem takes_lengths (count : Nat) : Takes ((List.replicate count 4).mapM ByteReader.number)
    fun taken lengths => taken = lengths.flatMap (leBytes 4) ∧ lengths.length = count ∧
      ∀ length ∈ lengths, length < wordSize := by
  have hnumbers : Takes ((List.replicate count 4).mapM ByteReader.number) fun taken lengths =>
      taken = lengths.flatMap (leBytes 4) ∧ lengths.map (fun _ => 4) = List.replicate count 4 ∧
        ∀ length ∈ lengths, length < wordSize := by
    refine takes_mapM fun c hc => ?_
    obtain rfl := List.eq_of_mem_replicate hc
    refine (ByteReader.takes_number 4).mono ?_
    rintro taken length ⟨htaken, hlength⟩
    exact ⟨htaken, rfl, hlength⟩
  refine hnumbers.mono ?_
  rintro taken lengths ⟨htaken, hcount, hsmall⟩
  exact ⟨htaken, by simpa using congrArg List.length hcount, hsmall⟩

theorem takes_bodies (lengths : List Nat) :
    Takes (lengths.mapM fun length => do return { bytes := ← ByteReader.take length })
      fun taken ls => ∃ bss, taken = bss.flatten ∧ bss.map List.length = lengths ∧
        ls = labelsOf bss := by
  have hlabels : Takes (lengths.mapM fun length => do return { bytes := ← ByteReader.take length })
      fun taken ls => taken = ls.flatMap Label.bytes ∧ ls.map (fun l => l.bytes.length) = lengths ∧
        ∀ l ∈ ls, l.charset = .utf8 := by
    refine takes_mapM fun length _ => (ByteReader.takes_take length).bind ?_
    rintro front bs ⟨rfl, hlength⟩
    exact takes_pure ⟨List.append_nil front, hlength, rfl⟩
  refine hlabels.mono ?_
  rintro taken ls ⟨rfl, rfl, hcharset⟩
  refine ⟨ls.map Label.bytes, List.flatMap_def, List.map_map, ?_⟩
  rw [labelsOf, List.map_map]
  refine (List.map_id ls).symm.trans (List.map_congr_left fun l hl => ?_)
  rw [Function.comp_apply, ← hcharset l hl]
  rfl

/-- The lengths and the bodies of a record are taken together. -/
theorem takes_fields (count : Nat) (hcount : count < wordSize) :
    Takes (do
      let lengths ← (List.replicate count 4).mapM ByteReader.number
      lengths.mapM fun length => do return { bytes := ← ByteReader.take length })
      fun taken ls => ∃ bss, IsRecord (leBytes 4 count ++ taken) bss ∧ ls = labelsOf bss := by
  refine (takes_lengths count).bind ?_
  rintro front lengths ⟨rfl, rfl, hsmall⟩
  refine (takes_bodies lengths).mono ?_
  rintro back ls ⟨bss, rfl, rfl, rfl⟩
  rw [List.length_map] at hcount ⊢
  rw [List.flatMap_map]
  exact ⟨bss, ⟨hcount, fun bs hbs => hsmall _ (List.mem_map_of_mem hbs), rfl⟩, rfl⟩

/-- **A record is taken, or the bytes are found to be corrupt.** -/
theorem takes_decodeRecord :
    Takes decodeRecord fun taken ls => ∃ bss, IsRecord taken bss ∧ ls = labelsOf bss := by
  intro bs offset
  unfold decodeRecord
  rcases ByteReader.takes_number 4 bs offset with
    ⟨front, rest, count, rfl, ⟨rfl, hcount⟩, hrun⟩ | ⟨fault, r, hrun⟩
  · rw [run_bind_ok hrun, run_get_bind]
    dsimp only
    -- More bodies than bytes are refused before any length is read.
    by_cases hleft : rest.length < 4 * count
    · rw [if_pos hleft]
      exact .inr ⟨_, _, rfl⟩
    · rw [if_neg hleft]
      rcases takes_fields count hcount rest (offset + (leBytes 4 count).length) with
        ⟨taken, rest, ls, rfl, hrecord, hrun'⟩ | hfault
      · refine .inl ⟨leBytes 4 count ++ taken, rest, ls, (List.append_assoc ..).symm, hrecord, ?_⟩
        rw [List.length_append, ← Nat.add_assoc]
        exact hrun'
      · exact .inr hfault
  · exact .inr ⟨fault, r, run_bind_error hrun _⟩

/-! ### Values -/

theorem Splits.decode_eq (h : Splits v records) :
    decode v = .ok (labelsOf records.flatten).eraseDups := by
  have hrecords :
      (∀ ls ∈ records.map labelsOf, Small ls) ∧ v = (records.map labelsOf).flatMap record ∧
      (records.map labelsOf).flatMap (List.map Label.asUtf8) = labelsOf records.flatten := by
    induction h with
    | nil => exact ⟨fun ls hls => absurd hls List.not_mem_nil, rfl, rfl⟩
    | @cons v w bss records h hrest ih =>
      obtain ⟨hsmall, hw, hlabels⟩ := ih
      refine ⟨List.forall_mem_cons.2 ⟨h.small, hsmall⟩, ?_, ?_⟩
      · rw [List.map_cons, List.flatMap_cons, ← h.eq_record, ← hw]
      · rw [List.map_cons, List.flatMap_cons, hlabels, map_asUtf8_labelsOf, List.flatten_cons,
          labelsOf, labelsOf, labelsOf, List.map_append]
  obtain ⟨hsmall, hv, hlabels⟩ := hrecords
  rw [hv, decode_records hsmall, hlabels]

theorem IsRecord.append_ne_nil (h : IsRecord v bss) (w : Bytes) : v ++ w ≠ [] := by
  have := h.length_pos
  rw [← List.length_pos_iff, List.length_append]
  omega

/-- **A value is split in one way only.** -/
theorem Splits.unique {records' : List (List Bytes)} (h : Splits v records)
    (h' : Splits v records') : records = records' := by
  induction h generalizing records' with
  | nil =>
    generalize hv : ([] : Bytes) = v at h'
    cases h' with
    | nil => rfl
    | @cons _ w _ _ h _ => exact absurd hv.symm (h.append_ne_nil w)
  | @cons v w bss records h hrest ih =>
    generalize hv : v ++ w = u at h'
    cases h' with
    | nil => exact absurd hv (h.append_ne_nil w)
    | @cons v' w' bss' records' h' hrest' =>
      obtain ⟨hlabels, rfl⟩ := h.reads.eq_of_append_eq h'.reads hv
      have hbss : bss = bss' := by rw [← bodies_labelsOf bss, hlabels, bodies_labelsOf]
      rw [hbss, ih hrest']

/-- The rounds in which a value is read. As long as bytes are left, a record is read and its labels
are added to those that are known; the first record that cannot be read ends the rounds. -/
inductive Drains : (known : List Label) → ByteReader → Except Error (List Label) → Prop where
  /-- No bytes are left. -/
  | done {known : List Label} {r : ByteReader} (h : r.rest = []) : Drains known r (.ok known)
  /-- A record cannot be read. -/
  | failed {known : List Label} {r r' : ByteReader} {e : Error} (h : r.rest ≠ [])
    (hrun : decodeRecord.run.run r = (.error e, r')) : Drains known r (.error e)
  /-- A record is read, and then the others. -/
  | round {known ls : List Label} {r r' : ByteReader} {answer : Except Error (List Label)}
    (h : r.rest ≠ []) (hrun : decodeRecord.run.run r = (.ok ls, r'))
    (hrest : Drains (union known ls) r' answer) : Drains known r answer

/-- **Reading comes to an end.** Every record takes some bytes, so there are no more rounds than
bytes. -/
theorem drains_decodeRecords : ∀ (fuel : Nat) (known : List Label) (r : ByteReader),
    r.rest.length ≤ fuel → Drains known r ((decodeRecords fuel known).run.run r).1
  | 0, known, r, hfuel => .done (List.eq_nil_of_length_eq_zero (Nat.le_zero.1 hfuel))
  | fuel + 1, known, ⟨bs, offset⟩, hfuel => by
    unfold decodeRecords
    rw [run_get_bind]
    dsimp only
    by_cases hbs : bs = []
    · rw [if_pos (List.isEmpty_iff.2 hbs)]
      exact .done hbs
    rw [if_neg fun h => hbs (List.isEmpty_iff.1 h)]
    rcases takes_decodeRecord bs offset with
      ⟨taken, rest, ls, rfl, ⟨bss, hrecord, rfl⟩, hrun⟩ | ⟨fault, r, hrun⟩
    · have hrest : rest.length ≤ fuel := by
        have := hrecord.length_pos
        rw [List.length_append] at hfuel
        omega
      rw [run_bind_ok hrun]
      exact .round hbs hrun (drains_decodeRecords fuel _ _ hrest)
    · rw [run_bind_error hrun]
      exact .failed hbs hrun

/-- Bytes that were read to the end could be split, and other bytes are corrupt. -/
theorem Drains.splits_or_corrupt (h : Drains known r answer) :
    (∃ records, Splits r.rest records) ∨ ∃ fault, answer = .error (.corrupt fault) := by
  induction h with
  | done h => exact .inl ⟨[], h ▸ .nil⟩
  | @failed known r r' e h hrun =>
    rcases takes_decodeRecord r.rest r.offset with
      ⟨taken, rest, ls, -, -, hrun'⟩ | ⟨fault, s, hrun'⟩
    · cases hrun.symm.trans hrun'
    · cases hrun.symm.trans hrun'
      exact .inr ⟨fault, rfl⟩
  | @round known ls r r' answer h hrun hrest ih =>
    rcases takes_decodeRecord r.rest r.offset with
      ⟨taken, rest, ls', hsplit, ⟨bss, hrecord, -⟩, hrun'⟩ | ⟨fault, s, hrun'⟩
    · cases hrun.symm.trans hrun'
      rcases ih with ⟨records, hrecords⟩ | hfault
      · exact .inl ⟨bss :: records, hsplit ▸ .cons hrecord hrecords⟩
      · exact .inr hfault
    · cases hrun.symm.trans hrun'

theorem drains_decode (v : Bytes) : Drains [] ⟨v, 0⟩ (decode v) :=
  drains_decodeRecords v.length [] ⟨v, 0⟩ (Nat.le_refl _)

/-! ### Written lists -/

/-- What is written for a list of labels is its record, and only lists are written whose lengths fit
their fields. -/
theorem appends_encode_iff {τ : Type} {t t' : τ} {ls : List Label} :
    Appends (encode ls) t () v t' ↔ Small ls ∧ v = record ls ∧ t' = t := by
  constructor
  · intro h
    obtain ⟨b, -, hrun⟩ := id h
    have hsmall := small_of_run_encode hrun
    exact ⟨hsmall, (writes_encode hsmall t).appends_iff.1 h⟩
  · rintro ⟨hsmall, h⟩
    exact (writes_encode hsmall t).appends_iff.2 h

/-- What was written for lists of labels, one behind the other, is read back as one list. -/
theorem decode_written {τ : Type} {written : List (List Label × Bytes)}
    (h : ∀ w ∈ written, ∃ t t' : τ, Appends (encode w.1) t () w.2 t') :
    decode (written.flatMap Prod.snd)
      = .ok ((written.flatMap Prod.fst).map Label.asUtf8).eraseDups := by
  have hrecord : ∀ w ∈ written, Small w.1 ∧ w.2 = record w.1 := by
    intro w hw
    obtain ⟨t, t', happends⟩ := h w hw
    obtain ⟨hsmall, hbytes, -⟩ := appends_encode_iff.1 happends
    exact ⟨hsmall, hbytes⟩
  have hbytes : written.flatMap Prod.snd = (written.map Prod.fst).flatMap record := by
    rw [List.flatMap_map, List.flatMap_def, List.flatMap_def,
      List.map_congr_left fun w hw => (hrecord w hw).2]
  have hsmall : ∀ ls ∈ written.map Prod.fst, Small ls := by
    intro ls hls
    obtain ⟨w, hw, rfl⟩ := List.mem_map.1 hls
    exact (hrecord w hw).1
  rw [hbytes, decode_records hsmall, List.flatMap_map, List.map_flatMap]

/-- **Stored lists of labels are exact.** Reading ends for every byte string. It ends with labels
exactly if the string can be split into records, and these labels are then those of all bodies in
their order, as UTF-8 and each at its first place only; a string that cannot be split is found to be
corrupt, and none can be split in two ways. Every list of labels whose lengths fit their fields can
be written; what was written for lists, put one behind the other, is read back as the labels of all
lists, as UTF-8 and each at its first place only. -/
theorem decode_exactly_records (v : Bytes) :
    Drains [] ⟨v, 0⟩ (decode v) ∧
    (∀ ls, decode v = .ok ls ↔
      ∃ records, Splits v records ∧ ls = (labelsOf records.flatten).eraseDups) ∧
    ((¬ ∃ records, Splits v records) → ∃ fault, decode v = .error (.corrupt fault)) ∧
    (∀ records records', Splits v records → Splits v records' → records = records') ∧
    (∀ (ls : List Label) (t : NodeTable), (∃ bs t', Appends (encode ls) t () bs t') ↔ Small ls) ∧
    ∀ written : List (List Label × Bytes),
      (∀ w ∈ written, ∃ t t' : NodeTable, Appends (encode w.1) t () w.2 t') →
        decode (written.flatMap Prod.snd)
          = .ok ((written.flatMap Prod.fst).map Label.asUtf8).eraseDups := by
  have hdrains := drains_decode v
  have hcases : (∃ records, Splits v records) ∨ ∃ fault, decode v = .error (.corrupt fault) :=
    hdrains.splits_or_corrupt
  refine ⟨hdrains, fun ls => ⟨fun h => ?_, ?_⟩, hcases.resolve_left, fun _ _ => Splits.unique,
    fun ls t => ⟨?_, fun h => ⟨record ls, t, appends_encode_iff.2 ⟨h, rfl, rfl⟩⟩⟩,
    fun written => decode_written⟩
  · rcases hcases with ⟨records, hrecords⟩ | ⟨fault, hfault⟩
    · exact ⟨records, hrecords, Except.ok.inj (h.symm.trans hrecords.decode_eq)⟩
    · cases h.symm.trans hfault
  · rintro ⟨records, hrecords, rfl⟩
    exact hrecords.decode_eq
  · rintro ⟨bs, t', h⟩
    exact (appends_encode_iff.1 h).1

/-- Two lists of which the second repeats, in UTF-8, a label that the first has in Latin-1, and the
value without its last byte. -/
theorem decode_exactly_records_recoded :
    let first : List Label := [.ofText "a", ⟨[0xE9], .latin1⟩]
    let second : List Label := [⟨[0xC3, 0xA9], .utf8⟩, .ofText "b"]
    let v : Bytes := [2, 0, 0, 0, 1, 0, 0, 0, 2, 0, 0, 0, 97, 0xC3, 0xA9]
    let w : Bytes := [2, 0, 0, 0, 2, 0, 0, 0, 1, 0, 0, 0, 0xC3, 0xA9, 98]
    Appends (encode first) NodeTable.empty () v NodeTable.empty ∧
    Appends (encode second) NodeTable.empty () w NodeTable.empty ∧
    decode (v ++ w) = .ok [.ofText "a", ⟨[0xC3, 0xA9], .utf8⟩, .ofText "b"] ∧
    (∀ records, Splits (v ++ w) records → records = [[[97], [0xC3, 0xA9]], [[0xC3, 0xA9], [98]]]) ∧
    ∃ fault, decode (v ++ w).dropLast = .error (.corrupt fault) := by
  intro first second v w
  have hfirst : Appends (encode first) NodeTable.empty () v NodeTable.empty :=
    appends_encode_iff.2 ⟨⟨by decide, by decide⟩, by decide, rfl⟩
  have hsecond : Appends (encode second) NodeTable.empty () w NodeTable.empty :=
    appends_encode_iff.2 ⟨⟨by decide, by decide⟩, by decide, rfl⟩
  obtain ⟨-, -, -, hunique, -, hwritten⟩ := decode_exactly_records (v ++ w)
  obtain ⟨-, hread, hcorrupt, -⟩ := decode_exactly_records (v ++ w).dropLast
  have hsplit : Splits (v ++ (w ++ [])) [[[97], [0xC3, 0xA9]], [[0xC3, 0xA9], [98]]] :=
    .cons ⟨by decide, by decide, by decide⟩ (.cons ⟨by decide, by decide, by decide⟩ .nil)
  rw [List.append_nil] at hsplit
  have hboth := hwritten [(first, v), (second, w)] <|
    List.forall_mem_cons.2 ⟨⟨_, _, hfirst⟩, List.forall_mem_singleton.2 ⟨_, _, hsecond⟩⟩
  have hlabels : (([(first, v), (second, w)].flatMap Prod.fst).map Label.asUtf8).eraseDups
      = [.ofText "a", ⟨[0xC3, 0xA9], .utf8⟩, .ofText "b"] := by decide
  have hbytes : [(first, v), (second, w)].flatMap Prod.snd = v ++ w := by decide
  rw [hlabels, hbytes] at hboth
  refine ⟨hfirst, hsecond, hboth, fun records h => hunique _ _ h hsplit, hcorrupt ?_⟩
  rintro ⟨records, hrecords⟩
  have hcut : (decode (v ++ w).dropLast).toOption = none := by decide +kernel
  rw [(hread _).2 ⟨records, hrecords, rfl⟩] at hcut
  cases hcut

end Clearance.LabelList
