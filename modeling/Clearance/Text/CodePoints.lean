/-!
# Classes of characters given by ranges of code points

A character class of the Unicode standard is kept as an ascending list of closed ranges of code
points that do not meet. `Clearance.Text.inRanges` decides membership; it stops at the first range
beyond the code point, so a question about an ASCII character reads the head of the list only.

## Main definitions

* `Clearance.Text.CodeRanges` — ascending closed ranges of code points.
* `Clearance.Text.inRanges` — membership of a code point.
-/

namespace Clearance.Text

/-- Closed ranges of code points, ascending and apart from one another. -/
abbrev CodeRanges := List (Nat × Nat)

/-- Whether the code point `n` lies in one of the ranges. -/
def inRanges : CodeRanges → Nat → Bool
  | [], _ => false
  | (lo, hi) :: rs, n => if n < lo then false else n ≤ hi || inRanges rs n

end Clearance.Text
