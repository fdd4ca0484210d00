import Clearance.Node.Basic
import Clearance.Text.Blank

/-!
# Canonical literals

Numbers and truth values can be written in several ways. Labels are kept under the *canonical* form
of a triple, in which the object, if it is a literal of one of the XML Schema types for whole
numbers, decimals and truth values, has one form for each value:

* a whole number has no plus sign and no leading zeros, and zero no sign;
* a decimal moreover has a point with at least one digit on both sides, and no needless zeros;
* a truth value is `true` or `false`.

White space around the text does not count. A text that spells no value of its type stays as it is.

## Main definitions

* `Clearance.Literal.canonical`, `Clearance.Node.canonical`, `Clearance.Triple.canonical`.
-/

namespace Clearance

namespace Canonical

/-- The sign of a number, true for minus, and the text after it. -/
def splitSign : List Char → Bool × List Char
  | '-' :: s => (true, s)
  | '+' :: s => (false, s)
  | s => (false, s)

/-- A text of digits without its leading zeros. -/
def dropZeros (s : List Char) : List Char := s.dropWhile (· = '0')

/-- The canonical form of a whole number. -/
def integer? (s : List Char) : Option (List Char) :=
  let (negative, digits) := splitSign (Text.trimBlank s)
  if digits.isEmpty || !digits.all Char.isDigit then none
  else match dropZeros digits with
    | [] => some ['0']
    | ds => some (if negative then '-' :: ds else ds)

/-- A text of digits, or a zero if it is empty. -/
def orZero (s : List Char) : List Char := if s.isEmpty then ['0'] else s

/-- The canonical form of a decimal. -/
def decimal? (s : List Char) : Option (List Char) :=
  let (negative, body) := splitSign (Text.trimBlank s)
  let whole := body.takeWhile (· ≠ '.')
  let fraction := (body.dropWhile (· ≠ '.')).drop 1
  if whole.isEmpty && fraction.isEmpty then none
  else if !whole.all Char.isDigit || !fraction.all Char.isDigit then none
  else
    let whole := orZero (dropZeros whole)
    let fraction := orZero (Text.dropWhileEnd (· = '0') fraction)
    let isZero := whole = ['0'] && fraction = ['0']
    some ((if negative && !isZero then ['-'] else []) ++ whole ++ '.' :: fraction)

/-- The canonical form of a truth value. -/
def boolean? (s : List Char) : Option (List Char) :=
  let s := Text.trimBlank s
  if s = ['1'] || s = "true".toList then some "true".toList
  else if s = ['0'] || s = "false".toList then some "false".toList
  else none

/-- What all names of XML Schema types begin with. -/
def schemaBase : List Char := "http://www.w3.org/2001/XMLSchema#".toList

/-- The names of the types of whole numbers. -/
def integerTypes : List (List Char) :=
  ["integer", "long", "int", "short", "byte", "nonNegativeInteger", "positiveInteger",
    "nonPositiveInteger", "negativeInteger", "unsignedLong", "unsignedInt", "unsignedShort",
    "unsignedByte"].map String.toList

/-- The canonical form of a text of the type with a given name. -/
def ofType? (type s : List Char) : Option (List Char) :=
  if integerTypes.contains type then integer? s
  else if type = "decimal".toList then decimal? s
  else if type = "boolean".toList then boolean? s
  else none

end Canonical

/-- The canonical text of a literal that has one. -/
def Literal.canonicalLexical? (l : Literal) : Option (List Char) :=
  match l.qualifier with
  | .datatype iri => do
    let type ← Canonical.schemaBase.isPrefixOf? iri.toList
    Canonical.ofType? type l.lexical.toList
  | _ => none

/-- A literal with its text in canonical form. -/
def Literal.canonical (l : Literal) : Literal :=
  match l.canonicalLexical? with
  | some s => { l with lexical := String.ofList s }
  | none => l

/-- A node with its literal in canonical form. -/
def Node.canonical : Node → Node
  | .literal l => .literal l.canonical
  | n => n

/-- A triple with its object in canonical form. -/
def Triple.canonical (t : Triple) : Triple := { t with o := t.o.canonical }

end Clearance
