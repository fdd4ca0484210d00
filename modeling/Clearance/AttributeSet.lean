import Clearance.Expr.Reader
import Std.Data.ExtTreeMap

/-!
# Attribute sets

The attributes of a requester: for each attribute the list of values held for it, in the order in
which they were added, none twice. The text of a set lists attributes with a value each, between
commas; an attribute alone holds the value true.

## Main definitions

* `Clearance.AttributeSet` — the values of a requester by attribute.
* `Clearance.AttributeSet.parsePairs`, `Clearance.AttributeSet.parse` — reading.
* `Clearance.AttributeSet.chars` — printing.
-/

namespace Clearance

/-- The values that a requester holds, by attribute. -/
structure AttributeSet where
  /-- The values of the attributes that have any. -/
  held : Std.ExtTreeMap Attribute (List Value)

namespace AttributeSet

/-- The set without values. -/
def empty : AttributeSet := ⟨∅⟩

/-- The values held for an attribute. -/
def get (s : AttributeSet) (a : Attribute) : List Value := s.held.getD a []

/-- Whether some value is held for an attribute. -/
def hasAttribute (s : AttributeSet) (a : Attribute) : Bool := s.held.contains a

/-- Whether a value is held for an attribute. -/
def has (s : AttributeSet) (a : Attribute) (v : Value) : Bool := (s.get a).contains v

/-- Adds a value at the end of the values of an attribute, unless it is there. -/
def add (s : AttributeSet) (a : Attribute) (v : Value) : AttributeSet :=
  ⟨s.held.insert a (if s.has a v then s.get a else s.get a ++ [v])⟩

/-- Adds the values of a list of pairs, the first one first. -/
def addAll (s : AttributeSet) (pairs : List (Attribute × Value)) : AttributeSet :=
  pairs.foldl (fun s p => s.add p.1 p.2) s

/-- The set that holds the values of a list of pairs. -/
def ofPairs (pairs : List (Attribute × Value)) : AttributeSet := empty.addAll pairs

/-- The attributes in ascending order, each with its values. -/
def entries (s : AttributeSet) : List (Attribute × List Value) := s.held.toList

/-- The attributes in ascending order, each repeated for every value. -/
def pairs (s : AttributeSet) : List (Attribute × Value) :=
  s.entries.flatMap fun (a, vs) => vs.map fun v => (a, v)

/-- Adds every value of another set. -/
def merge (s other : AttributeSet) : AttributeSet := s.addAll other.pairs

/-- Drops all values of an attribute. -/
def clear (s : AttributeSet) (a : Attribute) : AttributeSet := ⟨s.held.erase a⟩

/-- The number of attributes that have values. -/
def size (s : AttributeSet) : Nat := s.held.size

/-! ### Text -/

open Grammar Lexeme in
/-- A value at the front of a text, after an equality sign. -/
def assigned (s : List Char) : Reading Value :=
  match skipLayout s with
  | '=' :: r => value (skipLayout r)
  | _ => .absent

open Grammar in
/-- An attribute at the front of a text, and the value that may follow it. -/
def pair (s : List Char) : Reading (Attribute × Value) :=
  (attributeName s).bind fun a r =>
    ((assigned r).optional r).map fun v => (a, v.getD (.flag true))

open Grammar Lexeme in
/-- The attributes and values that a text lists, in its order. -/
def parsePairs (text : List Char) : Except TextFault (List (Attribute × Value)) :=
  let start := skipLayout text
  whole text start .sign
    (closeLayout ((items pair start).orElse fun _ => .found [] start))

/-- The set that a text lists. -/
def parse (text : List Char) : Except TextFault AttributeSet := (parsePairs text).map ofPairs

/-- The printed form of a list of attributes and values. -/
def pairsChars : List (Attribute × Value) → List Char
  | [] => []
  | [(a, v)] => Attribute.chars a ++ '=' :: v.chars
  | (a, v) :: p :: ps => Attribute.chars a ++ '=' :: v.chars ++ ',' :: ' ' :: pairsChars (p :: ps)

/-- The printed form of a set. -/
def chars (s : AttributeSet) : List Char := pairsChars s.pairs

instance : ToString AttributeSet where
  toString s := String.ofList s.chars

end AttributeSet

end Clearance
