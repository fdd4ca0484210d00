import Clearance.Expr.Basic
import Clearance.Lexeme

/-!
# Printing expressions

Names and texts are printed *bare* when a reader of label texts takes them whole as a word or, for
values, as a number, and does not mistake them for a truth value; otherwise in double quotes. An
expression is printed with single spaces around its signs. Brackets are added around a disjunction
that stands under a conjunction, where its meaning depends on them.

## Main definitions

* `Clearance.Attribute.chars`, `Clearance.Value.chars`, `Clearance.Expr.chars` — printed forms.
-/

namespace Clearance

/-- The text of a truth value. -/
def flagChars (b : Bool) : List Char :=
  if b then ['t', 'r', 'u', 'e'] else ['f', 'a', 'l', 's', 'e']

/-- A text with the capital ASCII letters made small. -/
def lowered (s : List Char) : List Char := s.map Char.toLower

/-- The truth value that a text spells, in capital or small letters. -/
def flag? (s : List Char) : Option Bool :=
  if lowered s = flagChars true then some true
  else if lowered s = flagChars false then some false
  else none

/-- The value that a written text stands for. -/
def Value.ofChars (s : List Char) : Value :=
  match flag? s with
  | some b => .flag b
  | none => .text (String.ofList s)

/-- The names that no attribute may have in a text, since they are the truth values. -/
def isKeyword (s : List Char) : Bool := s = flagChars true || s = flagChars false

/-- Whether a whole text is one word. -/
def isWholeWord (s : List Char) : Bool :=
  match Lexeme.word? s with
  | some (_, []) => true
  | _ => false

/-- Whether a whole text is one number. -/
def isWholeNumber (s : List Char) : Bool :=
  match Lexeme.number? s with
  | some (_, []) => true
  | _ => false

/-- Whether a text value is printed without quotes. -/
def isBareValue (s : List Char) : Bool :=
  (flag? s).isNone && (isWholeWord s || isWholeNumber s)

/-- Whether the name of an attribute is printed without quotes. -/
def isBareAttribute (s : List Char) : Bool := !isKeyword s && isWholeWord s

/-- The form of a character between double quotes. -/
def escapeChar : Char → List Char
  | '"' => ['\\', '"']
  | '\\' => ['\\', '\\']
  | '\n' => ['\\', 'n']
  | '\t' => ['\\', 't']
  | c => [c]

/-- A text in double quotes. -/
def quotedChars (s : List Char) : List Char := '"' :: (s.flatMap escapeChar ++ ['"'])

/-- The printed form of an attribute. -/
def Attribute.chars (a : Attribute) : List Char :=
  if isBareAttribute a.toList then a.toList else quotedChars a.toList

/-- The printed form of a value. -/
def Value.chars : Value → List Char
  | .flag b => flagChars b
  | .text s => if isBareValue s.toList then s.toList else quotedChars s.toList

/-- Whether an expression is a disjunction. -/
def Expr.isOr : Expr → Bool
  | .or _ _ => true
  | _ => false

/-- A printed expression as it stands under a conjunction. -/
def operandChars (isOr : Bool) (printed : List Char) : List Char :=
  if isOr then '(' :: (printed ++ [')']) else printed

/-- The printed form of an expression. -/
def Expr.chars : Expr → List Char
  | .holds a => Attribute.chars a
  | .relation a op v => Attribute.chars a ++ ' ' :: op.symbol.toList ++ ' ' :: v.chars
  | .and l r => operandChars l.isOr l.chars ++ " && ".toList ++ operandChars r.isOr r.chars
  | .or l r => l.chars ++ " || ".toList ++ r.chars
  | .bracket e => '(' :: (e.chars ++ [')'])
  | .allow => ['*']
  | .deny => ['!']

instance : ToString Value where
  toString v := String.ofList v.chars

instance : ToString Expr where
  toString e := String.ofList e.chars

end Clearance
