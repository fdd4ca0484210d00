import Clearance.Numeral

/-!
# JSON values

Values as JSON texts write them. A *record* has named fields, and is written as an object, or as an
array that gives the first fields in their order. Where a value is skipped anything goes; a *plain*
value is one that can be kept: every text in it stands for a string of characters, every number is
in range, and its arrays and objects are not nested too deeply.

## Main definitions

* `Clearance.Json` — values.
* `Clearance.Json.isPlain` — which values can be kept.
* `Clearance.Json.record?`, `Clearance.Json.text?`, `Clearance.Json.flag?`,
  `Clearance.Json.integer?`, `Clearance.Json.texts?`, `Clearance.Json.choice?` — what values hold.
-/

namespace Clearance

/-- A JSON value. A text is missing where its escapes stand for no characters. -/
inductive Json where
  /-- The value `null`. -/
  | null
  /-- A truth value. -/
  | flag (b : Bool)
  /-- A number. -/
  | number (n : Numeral)
  /-- A text. -/
  | text (s? : Option String)
  /-- An array. -/
  | array (elements : List Json)
  /-- An object. -/
  | object (members : List (Option String × Json))

namespace Json

/-- The text of a string. -/
def ofText (s : String) : Json := text (some s)

/-- An integer. -/
def ofInt (n : Int) : Json := number ⟨n < 0, true, n.natAbs, 0⟩

/-- An object with given members. -/
def record (fields : List (String × Json)) : Json :=
  object (fields.map fun (name, j) => (some name, j))

/-! ### Plain values -/

mutual

/-- Whether a value is plain, with arrays and objects nested at most `depth` deep. -/
def isPlain (depth : Nat) : Json → Bool
  | null => true
  | flag _ => true
  | number n => n.inRange
  | text s? => s?.isSome
  | array elements => 0 < depth && areElementsPlain (depth - 1) elements
  | object members => 0 < depth && areMembersPlain (depth - 1) members

/-- Whether all elements of an array are plain. -/
def areElementsPlain (depth : Nat) : List Json → Bool
  | [] => true
  | j :: js => isPlain depth j && areElementsPlain depth js

/-- Whether all members of an object are plain. -/
def areMembersPlain (depth : Nat) : List (Option String × Json) → Bool
  | [] => true
  | (name?, j) :: members => name?.isSome && isPlain depth j && areMembersPlain depth members

end

/-! ### What values hold -/

/-- The string of a text. -/
def text? : Json → Option String
  | text s? => s?
  | _ => none

/-- A truth value. -/
def flag? : Json → Option Bool
  | flag b => some b
  | _ => none

/-- An integer between bounds. -/
def integer? (least greatest : Int) : Json → Option Int
  | number n => n.integer?.filter fun v => least ≤ v && v ≤ greatest
  | _ => none

/-- An integer in a signed word. -/
def signed? (j : Json) : Option Int := j.integer? (-0x8000000000000000) 0x7fffffffffffffff

/-- An integer in an unsigned word. -/
def unsigned? (j : Json) : Option Nat := (j.integer? 0 0xffffffffffffffff).map Int.toNat

/-- The strings of an array of texts. -/
def texts? : Json → Option (List String)
  | array elements => elements.mapM text?
  | _ => none

/-- The members of an object. -/
def members? : Json → Option (List (String × Json))
  | object members => members.mapM fun (name?, j) => name?.map fun name => (name, j)
  | _ => none

/-- The fields of a record with given names. A field may be missing, but not stand twice; members
with other names are skipped. -/
def record? (names : List String) : Json → Option (List (String × Json))
  | array elements => if elements.length ≤ names.length then some (names.zip elements) else none
  | j => do
    let fields := (← j.members?).filter fun f => names.contains f.1
    if (fields.map Prod.fst).Nodup then some fields else none

/-- What a field of a record holds, or a default if it is missing. -/
def fieldOr {α : Type} (fields : List (String × Json)) (name : String) (default : α)
    (read : Json → Option α) : Option α :=
  match fields.lookup name with
  | some j => read j
  | none => some default

/-- Whether a value says nothing. -/
def isNothing : Json → Bool
  | null => true
  | object [] => true
  | _ => false

/-- The choice that is named, by a text or by an object with one member that says nothing. -/
def choice? {α : Type} (choices : List (String × α)) : Json → Option α
  | text (some name) => choices.lookup name
  | object [(some name, j)] => if j.isNothing then choices.lookup name else none
  | _ => none

end Json

end Clearance
