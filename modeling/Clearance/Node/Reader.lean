import Clearance.Error

/-!
# Reading nodes

A node is read back from its term. The form of a term is told by its first characters, for a URI
also by its last one. Texts that no node has as its term may be read all the same: a backslash takes
away the meaning of any character after it.

## Main definitions

* `Clearance.Node.ofTerm`, `Clearance.Literal.ofTerm` — the node and the literal with a given term.
-/

namespace Clearance

/-- What a backslash and a character stand for inside a literal. -/
def unescapeLexical : Char → Char
  | 'n' => '\n'
  | 'r' => '\r'
  | 't' => '\t'
  | c => c

/-- The text of a literal up to its closing quote, and what follows that quote. -/
def lexicalBody : List Char → Option (List Char × List Char)
  | [] => none
  | ['\\'] => none
  | '\\' :: c :: s => (lexicalBody s).map fun (t, r) => (unescapeLexical c :: t, r)
  | '"' :: s => some ([], s)
  | c :: s => (lexicalBody s).map fun (t, r) => (c :: t, r)

/-- A text without its last character, if that is an angle bracket that closes. -/
def beforeClose? (s : List Char) : Option (List Char) :=
  if s.getLast? = some '>' then some s.dropLast else none

/-- The qualifier that follows the closing quote of a literal. -/
def Qualifier.ofChars? : List Char → Option Qualifier
  | [] => some .plain
  | '@' :: tag => some (.language (String.ofList tag))
  | '^' :: '^' :: '<' :: s => (beforeClose? s).map fun iri => .datatype (String.ofList iri)
  | _ => none

/-- The literal with a given term, if there is one. -/
def Literal.ofTerm? : List Char → Option Literal
  | '"' :: s => do
    let (lexical, rest) ← lexicalBody s
    let qualifier ← Qualifier.ofChars? rest
    return ⟨String.ofList lexical, qualifier⟩
  | _ => none

/-- The literal with a given term. -/
def Literal.ofTerm (term : List Char) : Except Corruption Literal :=
  match Literal.ofTerm? term with
  | some l => .ok l
  | none => .error (.malformedLiteral (String.ofList term))

/-- The node with a given term. -/
def Node.ofTerm (term : List Char) : Except Corruption Node :=
  match term with
  | '"' :: _ => (Literal.ofTerm term).map .literal
  | '_' :: ':' :: label => .ok (.blank (String.ofList label))
  | '<' :: s => match beforeClose? s with
    | some iri => .ok (.uri (String.ofList iri))
    | none => .error (.unknownTerm (String.ofList term))
  | ['A', 'N', 'Y'] => .ok .any
  | _ => .error (.unknownTerm (String.ofList term))

end Clearance
