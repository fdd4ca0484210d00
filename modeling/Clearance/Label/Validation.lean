import Clearance.Error
import Clearance.Expr.Reader

/-!
# Labels as expressions

The text of a label is read as an expression. A list of labels may be stored when each of its labels
can be read and none stands twice.

## Main definitions

* `Clearance.Label.parse` — the expression of a label.
* `Clearance.Label.validate` — the check of a list of labels.
-/

namespace Clearance.Label

/-- The expression of a label. Bytes that are not UTF-8 are no expression in that charset. -/
def parse (l : Label) : Except TextFault Expr :=
  if l.charset = .utf8 && !Utf8.isValid l.bytes then .error .notUtf8
  else Expr.parse l.chars

/-- Checks a list of labels, given the labels before it. -/
def validateAfter (seen : List Label) : List Label → Except Error Unit
  | [] => .ok ()
  | l :: ls =>
    if seen.contains l then .error (.invalid (.duplicateLabel l))
    else match l.parse with
      | .error fault => .error (.malformed fault)
      | .ok _ => validateAfter (l :: seen) ls

/-- Checks that every label of a list can be read and that none stands twice. The first label at
fault decides. -/
def validate (ls : List Label) : Except Error Unit := validateAfter [] ls

end Clearance.Label
