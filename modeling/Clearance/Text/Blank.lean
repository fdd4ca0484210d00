import Clearance.Text.CodePoints

/-!
# White space

The characters with the Unicode property `White_Space`, and the removal of them from both ends of a
text.

## Main definitions

* `Clearance.Text.isBlank` — the property of a character.
* `Clearance.Text.trimBlank` — a text without the white space at its two ends.
-/

namespace Clearance.Text

/-- The code points with the property `White_Space`. -/
def blankRanges : CodeRanges :=
  [(0x9, 0xD), (0x20, 0x20), (0x85, 0x85), (0xA0, 0xA0), (0x1680, 0x1680), (0x2000, 0x200A),
   (0x2028, 0x2029), (0x202F, 0x202F), (0x205F, 0x205F), (0x3000, 0x3000)]

/-- Whether a character has the property `White_Space`. -/
def isBlank (c : Char) : Bool := inRanges blankRanges c.toNat

/-- Drops the longest run at the end of a list whose members satisfy `p`. -/
def dropWhileEnd {α : Type} (p : α → Bool) : List α → List α
  | [] => []
  | a :: l => match dropWhileEnd p l with
    | [] => if p a then [] else [a]
    | b :: t => a :: b :: t

/-- The text without the white space at its two ends. -/
def trimBlank (s : List Char) : List Char := dropWhileEnd isBlank (s.dropWhile isBlank)

end Clearance.Text
