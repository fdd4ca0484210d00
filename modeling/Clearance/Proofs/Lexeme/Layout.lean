import Clearance.Lexeme

/-!
# Layout

Layout is any run of spaces, tabs, line ends and comments, where a comment is `#` and the characters
up to the end of its line. The grammar of layout says so of two texts, one of which is left when
layout is taken from the front of the other; it leaves open how much is taken. The reader takes as
much as it can, so every other way to take layout leads to the same place.

## Main definitions

* `Clearance.Lexeme.AtLineEnd` — texts at the end of a line.
* `Clearance.Lexeme.Layout` — the grammar of layout.

## Main results

* `Clearance.Lexeme.Layout.append_line` — layout in front of more lines.
* `Clearance.Lexeme.layout_skipLayout` — what the reader drops is layout.
* `Clearance.Lexeme.Layout.skipLayout_eq` — the reader goes on from wherever layout may have ended.
-/

namespace Clearance.Lexeme

variable {c : Char} {body s r : List Char}

/-- A text that stands at the end of a line: nothing follows, or a line feed, which a carriage
return may precede. -/
inductive AtLineEnd : List Char → Prop
  | nothing : AtLineEnd []
  | lineFeed (s : List Char) : AtLineEnd ('\n' :: s)
  | carriageReturn (s : List Char) : AtLineEnd ('\r' :: '\n' :: s)

/-- The characters of layout outside comments. -/
def spaces : List Char := [' ', '\t', '\n', '\r']

/-- `Layout s r`: the text `s` is layout followed by `r`. -/
inductive Layout : List Char → List Char → Prop
  /-- No layout. -/
  | nothing (s : List Char) : Layout s s
  /-- A space, tab or line end, and more layout. -/
  | space {c : Char} {s r : List Char} (hc : c ∈ spaces) (h : Layout s r) : Layout (c :: s) r
  /-- A comment up to the end of its line, and more layout. -/
  | comment {body s r : List Char} (hbody : ∀ c ∈ body, c ≠ '\n' ∧ c ≠ '\r') (hend : AtLineEnd s)
      (h : Layout s r) : Layout ('#' :: (body ++ s)) r

theorem isSpace_iff : isSpace c = true ↔ c ∈ spaces := by
  simp [isSpace, spaces, or_assoc]

/-! ### The grammar -/

theorem Layout.length_le (h : Layout s r) : r.length ≤ s.length := by
  induction h with
  | nothing s => exact Nat.le_refl _
  | space hc h ih => exact Nat.le_succ_of_le ih
  | comment hbody hend h ih =>
    rw [List.length_cons, List.length_append]
    omega

/-- What holds of the characters with which layout begins, and of the one after it, holds of the
first character. -/
theorem Layout.forall_head {p : Char → Prop} (h : Layout s r) (hspaces : ∀ c ∈ spaces, p c)
    (hcomment : p '#') (hr : ∀ c ∈ r.head?, p c) : ∀ c ∈ s.head?, p c := by
  cases h with
  | nothing s => exact hr
  | space hc h => simpa using hspaces _ hc
  | comment hbody hend h => simpa using hcomment

theorem Layout.trans {t : List Char} (h : Layout s t) (h' : Layout t r) : Layout s r := by
  induction h with
  | nothing s => exact h'
  | space hc h ih => exact .space hc (ih h')
  | comment hbody hend h ih => exact .comment hbody hend (ih h')

/-- Where a line ends, it still does when more lines come after it. -/
theorem AtLineEnd.append_line (h : AtLineEnd s) (u : List Char) : AtLineEnd (s ++ '\n' :: u) := by
  cases h with
  | nothing => exact .lineFeed u
  | lineFeed s => exact .lineFeed _
  | carriageReturn s => exact .carriageReturn _

/-- More lines after a text leave its layout as it is: the line feed ends a comment that the end of
the text has ended. -/
theorem Layout.append_line (h : Layout s r) (u : List Char) :
    Layout (s ++ '\n' :: u) (r ++ '\n' :: u) := by
  induction h with
  | nothing s => exact .nothing _
  | space hc h ih => exact .space hc ih
  | comment hbody hend h ih =>
    rw [List.cons_append, List.append_assoc]
    exact .comment hbody (hend.append_line u) ih

/-! ### The reader -/

theorem lineEnds_cons (hc : c ≠ '\n' ∧ c ≠ '\r') : lineEnds (c :: s) = lineEnds s := by
  simp [lineEnds, hc.1, hc.2]

theorem lineEnds_append (hbody : ∀ c ∈ body, c ≠ '\n' ∧ c ≠ '\r') :
    lineEnds (body ++ s) = lineEnds s := by
  induction body with
  | nil => rfl
  | cons c body ih =>
    obtain ⟨hc, hbody⟩ := List.forall_mem_cons.1 hbody
    rw [List.cons_append, lineEnds_cons hc, ih hbody]

/-- A carriage return ends a line only together with a line feed. -/
theorem exists_of_lineEnds (h : lineEnds ('\r' :: s) = true) : ∃ t, s = '\n' :: t := by
  cases s with
  | nil => cases h
  | cons c t =>
    by_cases hc : c = '\n'
    · exact ⟨t, by rw [hc]⟩
    · simp [lineEnds, hc] at h

theorem AtLineEnd.lineEnds (h : AtLineEnd s) : lineEnds s = true := by
  cases h <;> rfl

theorem skip_true_cons (hc : c ≠ '\n' ∧ c ≠ '\r') : skip true (c :: s) = skip true s := by
  simp [skip, hc.1, hc.2]

theorem skip_true_append (hbody : ∀ c ∈ body, c ≠ '\n' ∧ c ≠ '\r') :
    skip true (body ++ s) = skip true s := by
  induction body with
  | nil => rfl
  | cons c body ih =>
    obtain ⟨hc, hbody⟩ := List.forall_mem_cons.1 hbody
    rw [List.cons_append, skip_true_cons hc, ih hbody]

/-- At the end of its line a comment is over. -/
theorem AtLineEnd.skip_true (h : AtLineEnd s) : skip true s = skip false s := by
  cases h <;> rfl

theorem skipLayout_cons (hc : c ∈ spaces) : skipLayout (c :: s) = skipLayout s := by
  simp [skipLayout, skip, isSpace_iff.2 hc]

/-- **The reader takes all layout:** wherever layout may be said to end, it goes on from there. -/
theorem Layout.skipLayout_eq (h : Layout s r) : skipLayout s = skipLayout r := by
  induction h with
  | nothing s => rfl
  | space hc h ih => rw [skipLayout_cons hc, ih]
  | @comment body s r hbody hend h ih =>
    have hline : lineEnds (body ++ s) = true := (lineEnds_append hbody).trans hend.lineEnds
    calc skipLayout ('#' :: (body ++ s))
        = skip true (body ++ s) := by simp [skipLayout, skip, isSpace, hline]
      _ = skip false s := by rw [skip_true_append hbody, hend.skip_true]
      _ = skipLayout r := ih

/-- A text that does not begin with layout is left as it is. -/
theorem skipLayout_eq_self (h : ∀ c ∈ r.head?, c ∉ spaces ∧ c ≠ '#') : skipLayout r = r := by
  cases r with
  | nil => rfl
  | cons c r =>
    obtain ⟨hspace, hcomment⟩ := h c rfl
    have hc : isSpace c = false := Bool.eq_false_iff.2 (mt isSpace_iff.1 hspace)
    simp [skipLayout, skip, hc, hcomment]

/-- The reader comes to a sign that layout may stand before. -/
theorem Layout.skipLayout_eq_cons (h : Layout s (c :: r)) (hc : c ∉ spaces ∧ c ≠ '#') :
    skipLayout s = c :: r :=
  h.skipLayout_eq.trans (skipLayout_eq_self fun _ hx => Option.some.inj hx ▸ hc)

/-- **What the reader drops is layout.** From inside a comment, it drops the rest of the comment and
the layout after it. -/
theorem layout_skip : ∀ s : List Char, Layout s (skip false s) ∧ (lineEnds s = true →
    ∃ body u, s = body ++ u ∧ (∀ c ∈ body, c ≠ '\n' ∧ c ≠ '\r') ∧ AtLineEnd u ∧
      Layout u (skip true s))
  | [] => ⟨.nothing _, fun _ => ⟨[], [], rfl, nofun, .nothing, .nothing _⟩⟩
  | c :: s => by
    obtain ⟨houtside, hinside⟩ := layout_skip s
    constructor
    · rw [skip]
      split
      · next hc => exact .space (isSpace_iff.1 hc) houtside
      split
      · next hc =>
        obtain ⟨rfl, hline⟩ : c = '#' ∧ lineEnds s = true := by simpa using hc
        obtain ⟨body, u, rfl, hbody, hend, h⟩ := hinside hline
        exact .comment hbody hend h
      · exact .nothing _
    · intro hline
      by_cases hlf : c = '\n'
      · subst hlf
        exact ⟨[], '\n' :: s, rfl, nofun, .lineFeed s, .space (by decide) houtside⟩
      by_cases hcr : c = '\r'
      · subst hcr
        obtain ⟨s, rfl⟩ := exists_of_lineEnds hline
        exact ⟨[], '\r' :: '\n' :: s, rfl, nofun, .carriageReturn s, .space (by decide) houtside⟩
      · rw [lineEnds_cons ⟨hlf, hcr⟩] at hline
        obtain ⟨body, u, rfl, hbody, hend, h⟩ := hinside hline
        refine ⟨c :: body, u, rfl, List.forall_mem_cons.2 ⟨⟨hlf, hcr⟩, hbody⟩, hend, ?_⟩
        rwa [skip_true_cons ⟨hlf, hcr⟩]

theorem layout_skipLayout (s : List Char) : Layout s (skipLayout s) := (layout_skip s).1

end Clearance.Lexeme
