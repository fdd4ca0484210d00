import Clearance.Label.Validation
import Clearance.Proofs.Bytes.Utf8

/-!
# Labels that pass the check

A list of labels passes the check exactly when each of its labels can be read and none stands twice.
A label that comes back from a store is another label when it was given in another charset, but it
reads as the same expression.

## Main definitions

* `Clearance.Label.IsReadable`, `Clearance.Label.Valid` — labels that can be read, and lists of such
  labels.

## Main results

* `Clearance.Label.validate_eq_ok_iff` — the lists that pass the check.
* `Clearance.Label.chars_asUtf8`, `Clearance.Label.parse_asUtf8` — labels that come back from a
  store.
-/

namespace Clearance.Label

variable {l : Label} {ls : List Label}

/-- Whether a label can be read as an expression. -/
def IsReadable (l : Label) : Prop := ∃ e, l.parse = .ok e

/-- Whether every label of a list can be read, and none stands twice. -/
def Valid (ls : List Label) : Prop := ls.Nodup ∧ ∀ l ∈ ls, l.IsReadable

theorem valid_nil : Valid [] := ⟨List.Pairwise.nil, nofun⟩

/-! ### The check -/

theorem validateAfter_eq_ok_iff : ∀ {ls seen : List Label}, validateAfter seen ls = .ok () ↔
    ls.Nodup ∧ (∀ l ∈ ls, l ∉ seen) ∧ ∀ l ∈ ls, l.IsReadable
  | [], seen => by simp [validateAfter]
  | l :: ls, seen => by
    rw [validateAfter]
    by_cases hseen : l ∈ seen
    · rw [if_pos (List.contains_iff_mem.2 hseen)]
      exact ⟨nofun, fun ⟨_, hfresh, _⟩ => absurd hseen (hfresh l List.mem_cons_self)⟩
    · rw [if_neg fun hcontains => hseen (List.contains_iff_mem.1 hcontains)]
      cases hl : l.parse with
      | error fault =>
        refine ⟨nofun, fun ⟨_, _, hreadable⟩ => ?_⟩
        obtain ⟨e, he⟩ := hreadable l List.mem_cons_self
        rw [hl] at he
        cases he
      | ok e =>
        have hreadable : l.IsReadable := ⟨e, hl⟩
        dsimp only
        rw [validateAfter_eq_ok_iff, List.nodup_cons]
        simp only [List.mem_cons, not_or, forall_eq_or_imp]
        constructor
        · rintro ⟨hnodup, hfresh, hrest⟩
          exact ⟨⟨fun hmem => (hfresh l hmem).1 rfl, hnodup⟩, ⟨hseen, fun m hm => (hfresh m hm).2⟩,
            hreadable, hrest⟩
        · rintro ⟨⟨hnotmem, hnodup⟩, ⟨-, hfresh⟩, -, hrest⟩
          exact ⟨hnodup, fun m hm => ⟨fun heq => hnotmem (heq ▸ hm), hfresh m hm⟩, hrest⟩

/-- **The lists that pass the check:** every label can be read, and none stands twice. -/
theorem validate_eq_ok_iff : validate ls = .ok () ↔ Valid ls := by
  rw [validate, validateAfter_eq_ok_iff, Valid]
  simp

/-! ### Other charsets -/

/-- A label that comes back from a store has the text that it had. -/
theorem chars_asUtf8 (l : Label) : l.asUtf8.chars = l.chars := by
  obtain ⟨bytes, charset⟩ := l
  cases charset with
  | utf8 => rfl
  | latin1 =>
    show Utf8.decodeLossy (Utf8.encode _) = _
    rw [Utf8.decodeLossy, Utf8.pieces_encode, List.map_map]
    exact List.map_id _

/-- **A label that comes back from a store reads as it did.** -/
theorem parse_asUtf8 (l : Label) : l.asUtf8.parse = l.parse := by
  obtain ⟨bytes, charset⟩ := l
  cases charset with
  | utf8 => rfl
  | latin1 =>
    have hvalid : Utf8.isValid (Utf8.encode (chars ⟨bytes, .latin1⟩)) = true := by
      rw [Utf8.isValid, Utf8.decode_encode]
    have hchars : chars ⟨Utf8.encode (chars ⟨bytes, .latin1⟩), .utf8⟩ = chars ⟨bytes, .latin1⟩ :=
      chars_asUtf8 ⟨bytes, .latin1⟩
    show parse ⟨Utf8.encode (chars ⟨bytes, .latin1⟩), .utf8⟩ = parse ⟨bytes, .latin1⟩
    rw [parse, parse, hvalid, hchars]
    rfl

theorem IsReadable.asUtf8 (h : l.IsReadable) : l.asUtf8.IsReadable := by
  obtain ⟨e, he⟩ := h
  exact ⟨e, (parse_asUtf8 l).trans he⟩

end Clearance.Label
