/-!
# Label expressions

A requester holds values for named attributes. A value is a text or a truth value. A label is an
*expression* over attributes: an attribute alone, a comparison of an attribute with a constant, a
conjunction, a disjunction, an expression in brackets, or one of the two expressions that always
allow and always deny.

## Main definitions

* `Clearance.Attribute`, `Clearance.Value` — attributes by name and the values held for them.
* `Clearance.Operator` — the comparisons.
* `Clearance.Expr` — label expressions.
-/

namespace Clearance

/-- The name of an attribute. -/
abbrev Attribute := String

/-- A value held for an attribute, or compared with one. -/
inductive Value where
  /-- A truth value. -/
  | flag (b : Bool)
  /-- A text. -/
  | text (s : String)
deriving DecidableEq, Repr

/-- The comparisons of an attribute with a constant. -/
inductive Operator where
  /-- Equality, or a place at least as high in a hierarchy. -/
  | eq
  /-- Difference. -/
  | ne
  /-- Less than. -/
  | lt
  /-- At most. -/
  | le
  /-- Greater than. -/
  | gt
  /-- At least. -/
  | ge
deriving DecidableEq, Repr

/-- A label expression. -/
inductive Expr where
  /-- The requester holds the value true for the attribute. -/
  | holds (a : Attribute)
  /-- A value that the requester holds for the attribute compares with the constant. -/
  | relation (a : Attribute) (op : Operator) (v : Value)
  /-- Both expressions. -/
  | and (l r : Expr)
  /-- One of the expressions. -/
  | or (l r : Expr)
  /-- An expression in brackets. -/
  | bracket (e : Expr)
  /-- Everyone. -/
  | allow
  /-- No one. -/
  | deny
deriving DecidableEq, Repr

/-- The sign of a comparison. -/
def Operator.symbol : Operator → String
  | .eq => "="
  | .ne => "!="
  | .lt => "<"
  | .le => "<="
  | .gt => ">"
  | .ge => ">="

end Clearance
