import Clearance.Error
import Clearance.Expr.Reader

/-!
# Hierarchies

A hierarchy lists values of one attribute, the lowest first. It is declared by the text of the
attribute, a colon, and the values between commas. Two values compare by their places in the list;
values that are not in it compare with nothing.

## Main definitions

* `Clearance.Hierarchy.ofValues` — the hierarchy with given values, unless a rule forbids it.
* `Clearance.Hierarchy.parse` — the hierarchy that a text declares.
* `Clearance.Hierarchy.compare?` — the comparison of two values.
* `Clearance.Hierarchy.chars` — the printed form.
-/

namespace Clearance

/-- Values of one attribute, the lowest first. -/
structure Hierarchy where
  /-- The attribute. -/
  attr : Attribute
  /-- The values. -/
  values : List Value
deriving DecidableEq, Repr

namespace Hierarchy

/-- The first value of a list that stands twice in it, at its second place. -/
def firstRepeat? : (seen l : List Value) → Option Value
  | _, [] => none
  | seen, v :: l => if seen.contains v then some v else firstRepeat? (v :: seen) l

/-- The hierarchy of an attribute with given values. The name of the attribute is neither empty nor
contains white space or a colon, and no value stands twice. -/
def ofValues (attr : Attribute) (values : List Value) : Except Error Hierarchy :=
  if attr.isEmpty then .error (.invalid .hierarchyUnnamed)
  else if attr.toList.any Text.isBlank then .error (.invalid (.hierarchyBlank attr))
  else if attr.toList.contains ':' then .error (.invalid (.hierarchyColon attr))
  else match firstRepeat? [] values with
    | some v => .error (.invalid (.hierarchyRepeats v attr))
    | none => .ok ⟨attr, values⟩

/-- The comparison of two values by their places, if both have one. -/
def compare? (h : Hierarchy) (v w : Value) : Option Ordering := do
  let i ← h.values.idxOf? v
  let j ← h.values.idxOf? w
  return compare i j

/-- Whether `w` has a place, and that place is not below the place of `v`. -/
def reaches (h : Hierarchy) (v w : Value) : Bool :=
  match h.compare? v w with
  | some .lt => true
  | some .eq => true
  | _ => false

/-- The printed form of the values after the colon. -/
def valuesChars : List Value → List Char
  | [] => []
  | [v] => ' ' :: v.chars
  | v :: w :: vs => ' ' :: (v.chars ++ ',' :: valuesChars (w :: vs))

/-- The printed form of a hierarchy. -/
def chars (h : Hierarchy) : List Char := Attribute.chars h.attr ++ ':' :: valuesChars h.values

instance : ToString Hierarchy where
  toString h := String.ofList h.chars

open Grammar Lexeme in
/-- The attribute that a whole text names. -/
def parseName (text : List Char) : Except TextFault Attribute :=
  whole text text (expectedName text) (attributeName text)

open Grammar Lexeme in
/-- The values that a whole text lists, at least one. -/
def parseValues (text : List Char) : Except TextFault (List Value) :=
  let start := skipLayout text
  whole text start .wordStart (closeLayout (items value start))

/-- The hierarchy that a text declares. The first colon ends the attribute, quoted or not. -/
def parse (text : List Char) : Except Error Hierarchy :=
  match text.dropWhile (· ≠ ':') with
  | [] => .error (.malformed (.noColon (String.ofList text)))
  | _ :: rest => do
    let attr ← parseName (Text.trimBlank (text.takeWhile (· ≠ ':')))
    let values ← parseValues rest
    ofValues attr values

end Hierarchy

end Clearance
