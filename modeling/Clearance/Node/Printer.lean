import Clearance.Node.Basic

/-!
# The text of a node

The *term* of a node is its full text: a URI between angle brackets, a literal in double quotes
followed by `@` and its language or by `^^` and its datatype in angle brackets, a blank node after
`_:`, and `ANY` for the wildcard. Only the text of a literal is escaped. When a triple is printed
for people the wildcard is `_`.

## Main definitions

* `Clearance.Node.term`, `Clearance.Literal.term` — terms.
* `Clearance.Node.printed`, `Clearance.Triple.printed` — the printed forms.
-/

namespace Clearance

/-- The form of a character inside the quotes of a literal. -/
def escapeLexical : Char → List Char
  | '"' => ['\\', '"']
  | '\\' => ['\\', '\\']
  | '\n' => ['\\', 'n']
  | '\r' => ['\\', 'r']
  | '\t' => ['\\', 't']
  | c => [c]

/-- What follows the closing quote of a literal. -/
def Qualifier.chars : Qualifier → List Char
  | .plain => []
  | .datatype iri => '^' :: '^' :: '<' :: (iri.toList ++ ['>'])
  | .language tag => '@' :: tag.toList

/-- The term of a literal. -/
def Literal.term (l : Literal) : List Char :=
  '"' :: (l.lexical.toList.flatMap escapeLexical ++ '"' :: l.qualifier.chars)

namespace Node

/-- The term of a node. -/
def term : Node → List Char
  | uri iri => '<' :: (iri.toList ++ ['>'])
  | literal l => l.term
  | blank label => '_' :: ':' :: label.toList
  | any => ['A', 'N', 'Y']

/-- A node printed for people. -/
def printed : Node → List Char
  | any => ['_']
  | n => n.term

end Node

/-- A triple printed for people. -/
def Triple.printed (t : Triple) : List Char :=
  '(' :: (t.s.printed ++ ' ' :: t.p.printed ++ ' ' :: t.o.printed ++ [')'])

instance : ToString Node where
  toString n := String.ofList n.printed

instance : ToString Triple where
  toString t := String.ofList t.printed

end Clearance
