import Clearance.Proofs.Codec.Records
import Clearance.Proofs.Distinct
import Clearance.Proofs.Label.Validation
import Mathlib.Data.List.Nodup

/-!
# Which lists of labels come back as they are

A list of labels that passes the check has no label twice, and its record holds all of them, in
UTF-8. A stored value may hold several records, so its reader keeps each label at its first place
only. It then also leaves out a label that differs from one before it in the charset only: labels in
one charset are different in UTF-8 if they are different at all, but a label in Latin-1 and one in
UTF-8 can come back as one and the same label. Lists without two such labels come back whole and in
order.

## Main definitions

* `Clearance.LabelList.Mixed` — lists with two labels that come back as one.

## Main results

* `Clearance.Label.eq_of_asUtf8` — labels in one charset.
* `Clearance.LabelList.nodup_map_asUtf8_iff`, `Clearance.LabelList.length_stored_iff` — lists that
  come back whole.
* `Clearance.LabelList.unmixed_lists_come_back`.
-/

namespace Clearance

namespace Label

variable {l m : Label}

theorem toNat_latin1Char (b : UInt8) : (latin1Char b).toNat = b.toNat := by
  have hvalid : b.toNat.isValidChar := by
    have := b.toNat_lt
    exact .inl (by omega)
  rw [latin1Char, Char.ofNat, dif_pos hvalid]
  rfl

theorem latin1Char_injective : Function.Injective latin1Char := fun b c h =>
  UInt8.toNat_inj.1 (by rw [← toNat_latin1Char, h, toNat_latin1Char])

/-- **Labels in one charset that come back as one label are one label.** -/
theorem eq_of_asUtf8 (hcharset : l.charset = m.charset) (h : l.asUtf8 = m.asUtf8) : l = m := by
  obtain ⟨bytes, charset⟩ := l
  obtain ⟨bytes', charset'⟩ := m
  obtain rfl : charset = charset' := hcharset
  cases charset with
  | utf8 => exact h
  | latin1 =>
    have hchars : bytes.map latin1Char = bytes'.map latin1Char :=
      Utf8.encode_injective (congrArg Label.bytes h)
    rw [latin1Char_injective.list_map hchars]

end Label

namespace LabelList

open EncodeM

variable {ls : List Label}

/-- Whether a list has two labels in different charsets that come back as one. -/
def Mixed (ls : List Label) : Prop :=
  ∃ l ∈ ls, ∃ m ∈ ls, l.charset ≠ m.charset ∧ l.asUtf8 = m.asUtf8

instance : DecidablePred Mixed := fun ls =>
  inferInstanceAs <| Decidable <| ∃ l ∈ ls, ∃ m ∈ ls, l.charset ≠ m.charset ∧ l.asUtf8 = m.asUtf8

/-- Labels that are different stay so, unless their charsets are mixed. -/
theorem nodup_map_asUtf8_iff (h : ls.Nodup) : (ls.map Label.asUtf8).Nodup ↔ ¬ Mixed ls := by
  rw [List.nodup_map_iff_inj_on h]
  constructor
  · rintro hinj ⟨l, hl, m, hm, hcharset, heq⟩
    exact hcharset (congrArg Label.charset (hinj l hl m hm heq))
  · intro hmixed l hl m hm heq
    refine Label.eq_of_asUtf8 (Decidable.byContradiction fun hcharset => ?_) heq
    exact hmixed ⟨l, hl, m, hm, hcharset, heq⟩

/-! ### Labels that come back -/

/-- As many labels come back as were given exactly if no charsets are mixed. -/
theorem length_stored_iff (h : ls.Nodup) : (stored ls).length = ls.length ↔ ¬ Mixed ls := by
  rw [← nodup_map_asUtf8_iff h, stored]
  constructor
  · intro hlength
    have hself := (eraseDups_sublist (ls.map Label.asUtf8)).eq_of_length (by simpa using hlength)
    exact hself ▸ nodup_eraseDups _
  · intro hnodup
    rw [eraseDups_eq_self hnodup, List.length_map]

/-- **Lists come back whole unless charsets are mixed.** -/
theorem stored_eq (h : ls.Nodup) (hmixed : ¬ Mixed ls) : stored ls = ls.map Label.asUtf8 :=
  eraseDups_eq_self ((nodup_map_asUtf8_iff h).2 hmixed)

/-- **Accepted lists of labels come back whole unless charsets are mixed.** A list that passes the
check, with lengths that fit their fields, is written to every buffer with room for its record. The
record holds all labels in their order, as UTF-8. What is read back from it as a stored value are
these labels, each at its first place only; they are all of them exactly if the list has no two
labels in different charsets that are the same in UTF-8. -/
theorem unmixed_lists_come_back (ls : List Label) (hvalid : Label.validate ls = .ok ())
    (hsmall : Small ls) :
    (∀ (b : Scratch) (t : NodeTable), b.bytes.length + (record ls).length ≤ b.capacity →
      (encode ls).run.run ⟨b, t⟩ = (.ok (), ⟨{ b with bytes := b.bytes ++ record ls }, t⟩)) ∧
    DecodeM.Reads decodeRecord (record ls) (ls.map Label.asUtf8) ∧
    ∃ read, decode (record ls) = .ok read ∧ read = (ls.map Label.asUtf8).eraseDups ∧
      (¬ Mixed ls → read = ls.map Label.asUtf8) ∧ (read.length = ls.length ↔ ¬ Mixed ls) := by
  have hnodup : ls.Nodup := (Label.validate_eq_ok_iff.1 hvalid).1
  exact ⟨fun b t hroom => (writes_encode hsmall t).run_eq hroom, reads_decodeRecord hsmall,
    stored ls, decode_record hsmall, rfl, stored_eq hnodup, length_stored_iff hnodup⟩

/-- A list with labels in both charsets, which comes back whole. -/
theorem unmixed_lists_come_back_recoded :
    let ls : List Label := [⟨[0x61, 0x3D, 0x27, 0xE9, 0x27], .latin1⟩, .ofText "staff"]
    Label.validate ls = .ok () ∧
      decode (record ls) = .ok [.ofText "a='é'", .ofText "staff"] := by
  intro ls
  have hvalid : Label.validate ls = .ok () := by rfl
  obtain ⟨-, -, read, hread, -, hwhole, -⟩ :=
    unmixed_lists_come_back ls hvalid ⟨by decide, by decide⟩
  rw [hread, hwhole (by decide)]
  exact ⟨hvalid, by rfl⟩

/-- A label in UTF-8 and the same one in Latin-1. The list passes the check, but one label comes
back. -/
theorem mixed_list_loses_label :
    let ls : List Label := [.ofText "a='é'", ⟨[0x61, 0x3D, 0x27, 0xE9, 0x27], .latin1⟩]
    Label.validate ls = .ok () ∧
      Appends (encode ls) NodeTable.empty () (record ls) NodeTable.empty ∧
      decode (record ls) = .ok [.ofText "a='é'"] ∧ [Label.ofText "a='é'"].length ≠ ls.length := by
  intro ls
  have hsmall : Small ls := ⟨by decide, by decide⟩
  exact ⟨by rfl, appends_encode_iff.2 ⟨hsmall, rfl, rfl⟩, decode_record hsmall, by decide⟩

end LabelList

end Clearance
