import Clearance.Expr.Printer
import Clearance.TextFault

/-!
# Reading expressions

The grammar of labels, with layout allowed wherever two signs meet:

* a label is `*`, `!` or a disjunction;
* a disjunction is conjunctions joined by `||` or `|`, a conjunction is operands joined by `&&` or
  `&`, both grouped to the left;
* an operand is a disjunction in brackets, or an attribute that a comparison with a constant may
  follow;
* an attribute is a word or a quoted string other than `true` and `false`, a constant is a quoted
  string, a number or a word.

Every reader takes what it can and leaves the rest. A sign after which nothing fits is left where it
is, so what is wrong with a text is said once, when the whole label has been read: the text goes on
after the label, or a quote in it is never closed, or it does not begin as a label.

Brackets nest, so the readers are built in layers: the operand of one layer reads the disjunctions
of the layer below. A text has fewer brackets than characters, which bounds the layers.

## Main definitions

* `Clearance.Grammar.value`, `Clearance.Grammar.attributeName`, `Clearance.Grammar.items` — the
  readers shared with attribute lists and hierarchies.
* `Clearance.Grammar.label` — the reader of labels.
* `Clearance.Expr.parse` — the expression that a text spells.
-/

namespace Clearance

namespace Grammar

open Lexeme

/-! ### Constants and attributes -/

/-- A constant at the front of a text: a quoted string, a number or a word. -/
def value (s : List Char) : Reading Value :=
  ((quoted s).map Value.ofChars).orElse fun _ =>
    match number? s with
    | some (n, r) => .found (.text (String.ofList n)) r
    | none => (Reading.ofOption (word? s)).map Value.ofChars

/-- A name at the front of a text: a word or a quoted string. -/
def name (s : List Char) : Reading (List Char) :=
  (Reading.ofOption (word? s)).orElse fun _ => quoted s

/-- An attribute at the front of a text: a name that is not a truth value. -/
def attributeName (s : List Char) : Reading Attribute :=
  (name s).bind fun n r => if isKeyword n then .absent else .found (String.ofList n) r

/-! ### Comparisons -/

/-- The comparison at the front of a text. The longer of two signs is taken. -/
def operator? : List Char → Option (Operator × List Char)
  | '!' :: '=' :: s => some (.ne, s)
  | '<' :: '=' :: s => some (.le, s)
  | '>' :: '=' :: s => some (.ge, s)
  | '=' :: '=' :: s => some (.eq, s)
  | '=' :: s => some (.eq, s)
  | '<' :: s => some (.lt, s)
  | '>' :: s => some (.gt, s)
  | _ => none

/-- A comparison and a constant at the front of a text, after layout. -/
def comparison (s : List Char) : Reading (Operator × Value) :=
  match operator? (skipLayout s) with
  | none => .absent
  | some (op, r) => (value (skipLayout r)).map fun v => (op, v)

/-- The expression of an attribute and the comparison that may follow it. -/
def relationOf (a : Attribute) : Option (Operator × Value) → Expr
  | none => .holds a
  | some (op, v) => .relation a op v

/-- An attribute at the front of a text, with the comparison that may follow it. -/
def relation (s : List Char) : Reading Expr :=
  (attributeName s).bind fun a r => ((comparison r).optional r).map (relationOf a)

/-! ### Connectives and brackets -/

/-- The text after a sign of conjunction. -/
def andSign? : List Char → Option (List Char)
  | '&' :: '&' :: s => some s
  | '&' :: s => some s
  | _ => none

/-- The text after a sign of disjunction. -/
def orSign? : List Char → Option (List Char)
  | '|' :: '|' :: s => some s
  | '|' :: s => some s
  | _ => none

/-- What follows an expression `e`: any number of times, at most `fuel`, a connective and an item,
joined to what stands before them. -/
def chain (item : List Char → Reading Expr) (sign? : List Char → Option (List Char))
    (join : Expr → Expr → Expr) : (fuel : Nat) → (e : Expr) → List Char → Reading Expr
  | 0, e, s => .found e s
  | fuel + 1, e, s =>
    match sign? (skipLayout s) with
    | none => .found e s
    | some r => match item (skipLayout r) with
      | .found e' r' => chain item sign? join fuel (join e e') r'
      | .absent => .found e s
      | .unclosed q => .unclosed q

/-- An expression in brackets at the front of a text. -/
def bracketed (inner : List Char → Reading Expr) : List Char → Reading Expr
  | '(' :: s => (inner (skipLayout s)).bind fun e r =>
    match skipLayout r with
    | ')' :: r' => .found (.bracket e) r'
    | _ => .absent
  | _ => .absent

/-- An operand of a connective at the front of a text. -/
def operand (inner : List Char → Reading Expr) (s : List Char) : Reading Expr :=
  (bracketed inner s).orElse fun _ => relation s

/-- A conjunction at the front of a text. -/
def conjunction (inner : List Char → Reading Expr) (s : List Char) : Reading Expr :=
  (operand inner s).bind fun e r => chain (operand inner) andSign? .and r.length e r

/-- A disjunction at the front of a text, with brackets nested less than `depth` deep. -/
def disjunction : (depth : Nat) → List Char → Reading Expr
  | 0, _ => .absent
  | depth + 1, s =>
    (conjunction (disjunction depth) s).bind fun e r =>
      chain (conjunction (disjunction depth)) orSign? .or r.length e r

/-- A label at the front of a text. -/
def label : List Char → Reading Expr
  | '*' :: s => .found .allow s
  | '!' :: s => .found .deny s
  | s => disjunction (s.length + 1) s

/-! ### Lists -/

/-- What follows an item of a list: any number of times, at most `fuel`, a comma and an item. -/
def moreItems {α : Type} (item : List Char → Reading α) :
    (fuel : Nat) → List Char → Reading (List α)
  | 0, s => .found [] s
  | fuel + 1, s =>
    match skipLayout s with
    | ',' :: r => match item (skipLayout r) with
      | .found a r' => (moreItems item fuel r').map (a :: ·)
      | .absent => .found [] s
      | .unclosed q => .unclosed q
    | _ => .found [] s

/-- One or more items at the front of a text, with commas between them. -/
def items {α : Type} (item : List Char → Reading α) (s : List Char) : Reading (List α) :=
  (item s).bind fun a r => (moreItems item r.length r).map (a :: ·)

/-! ### Whole texts -/

/-- What is missing at the front of a text where an attribute was looked for. -/
def expectedName (s : List Char) : Expected :=
  match name s with
  | .found _ _ => .otherName
  | _ => .sign

/-- Drops the layout after an item. -/
def closeLayout {α : Type} : Reading α → Reading α
  | .found a r => .found a (skipLayout r)
  | r => r

/-- The item that takes up a whole text, of which `start` is the part after the layout at the
front. -/
def whole {α : Type} (text start : List Char) (expected : Expected) :
    Reading α → Except TextFault α
  | .found a [] => .ok a
  | .found _ rest => .error (.trailing (String.ofList rest))
  | .absent => .error (.unreadable (String.ofList text) (String.ofList start) expected)
  | .unclosed quote => .error (.unclosed (String.ofList text) (String.ofList quote))

end Grammar

open Grammar Lexeme

/-- The expression that a text spells. -/
def Expr.parse (text : List Char) : Except TextFault Expr :=
  let start := skipLayout text
  whole text start (expectedName start) (closeLayout (label start))

end Clearance
