import Clearance.Json.Basic

/-!
# Reading JSON texts

Each reader takes what it reads off the front of a text and leaves the rest. There are no comments,
and no comma stands before a closing bracket.

## Main definitions

* `Clearance.Json.parse` — the value of a whole text.
-/

namespace Clearance.Json

/-- Whether a character may stand between the parts of a text. -/
def isBlank (c : Char) : Bool := c = ' ' || c = '\n' || c = '\t' || c = '\r'

/-- The text behind the blanks at its front. -/
def skipBlank (s : List Char) : List Char := s.dropWhile isBlank

/-! ### Texts -/

/-- The number of a hexadecimal digit. -/
def hexDigit? (c : Char) : Option Nat :=
  if '0' ≤ c && c ≤ '9' then some (c.toNat - '0'.toNat)
  else if 'a' ≤ c && c ≤ 'f' then some (c.toNat - 'a'.toNat + 10)
  else if 'A' ≤ c && c ≤ 'F' then some (c.toNat - 'A'.toNat + 10)
  else none

/-- The number of hexadecimal digits. -/
def hexNumber? (digits : List Char) : Option Nat :=
  digits.foldlM (fun n c => (hexDigit? c).map fun d => 16 * n + d) 0

/-- The characters that are escaped by a letter or sign. -/
def escapes : List (Char × Char) :=
  [('"', '"'), ('\\', '\\'), ('/', '/'), ('b', '\x08'), ('f', '\x0c'), ('n', '\n'), ('r', '\r'),
    ('t', '\t')]

/-- Whether a code unit is the first half of a pair. -/
def isHigh (u : Nat) : Bool := 0xD800 ≤ u && u < 0xDC00

/-- Whether a code unit is the second half of a pair. -/
def isLow (u : Nat) : Bool := 0xDC00 ≤ u && u < 0xE000

/-- The characters of code units, if no half of a pair is alone. -/
def joined : List Nat → Option (List Char)
  | [] => some []
  | u :: us =>
    if isHigh u then
      match us with
      | [] => none
      | v :: us =>
        if isLow v then
          (joined us).map (Char.ofNat (0x10000 + (u - 0xD800) * 0x400 + (v - 0xDC00)) :: ·)
        else none
    else if isLow u then none
    else (joined us).map (Char.ofNat u :: ·)

/-- Reads the code units up to a closing quote. -/
def units : List Char → Option (List Nat × List Char)
  | [] => none
  | '"' :: r => some ([], r)
  | '\\' :: 'u' :: a :: b :: c :: d :: r => do
    let u ← hexNumber? [a, b, c, d]
    let (us, r) ← units r
    return (u :: us, r)
  | '\\' :: c :: r => do
    let e ← escapes.lookup c
    let (us, r) ← units r
    return (e.toNat :: us, r)
  | c :: r => do
    if c.toNat < 0x20 then none
    let (us, r) ← units r
    return (c.toNat :: us, r)

/-- Reads a text behind its opening quote. -/
def string (s : List Char) : Option (Option String × List Char) :=
  (units s).map fun (us, r) => ((joined us).map String.ofList, r)

/-! ### Numbers -/

/-- The number that decimal digits make. -/
def decimal (digits : List Char) : Nat :=
  digits.foldl (fun n c => 10 * n + (c.toNat - '0'.toNat)) 0

/-- Reads digits, at least one. -/
def digits (s : List Char) : Option (List Char × List Char) :=
  match s.takeWhile Char.isDigit with
  | [] => none
  | ds => some (ds, s.dropWhile Char.isDigit)

/-- Reads the digits before a point. A zero stands alone. -/
def leading : List Char → Option (List Char × List Char)
  | '0' :: r => some (['0'], r)
  | s => digits s

/-- Reads the digits behind a point, if there is one. -/
def fraction : List Char → Option (List Char × List Char)
  | '.' :: r => digits r
  | s => some ([], s)

/-- Reads a sign, and answers whether it is a minus. -/
def sign : List Char → Bool × List Char
  | '-' :: r => (true, r)
  | '+' :: r => (false, r)
  | s => (false, s)

/-- Reads an exponent behind its letter. -/
def power (s : List Char) : Option (Int × List Char) := do
  let (negative, r) := sign s
  let (ds, r) ← digits r
  let e : Int := decimal ds
  return (if negative then -e else e, r)

/-- Reads an exponent, if there is one. -/
def exponent : List Char → Option (Option Int × List Char)
  | 'e' :: r => (power r).map fun (e, r) => (some e, r)
  | 'E' :: r => (power r).map fun (e, r) => (some e, r)
  | s => some (none, s)

/-- Reads a number without its sign. -/
def magnitude (negative : Bool) (s : List Char) : Option (Numeral × List Char) := do
  let (ds, r) ← leading s
  let (fs, r) ← fraction r
  let (e?, r) ← exponent r
  return (.ofDigits negative ds fs e?, r)

/-- Reads a number. -/
def numeral : List Char → Option (Numeral × List Char)
  | '-' :: r => magnitude true r
  | s => magnitude false s

/-! ### Values -/

mutual

/-- Reads a value. -/
def value : (fuel : Nat) → List Char → Option (Json × List Char)
  | 0, _ => none
  | fuel + 1, s =>
    match skipBlank s with
    | 'n' :: 'u' :: 'l' :: 'l' :: r => some (null, r)
    | 't' :: 'r' :: 'u' :: 'e' :: r => some (flag true, r)
    | 'f' :: 'a' :: 'l' :: 's' :: 'e' :: r => some (flag false, r)
    | '"' :: r => (string r).map fun (s?, r) => (text s?, r)
    | '[' :: r =>
      match skipBlank r with
      | ']' :: r => some (array [], r)
      | r => (elements fuel r).map fun (js, r) => (array js, r)
    | '{' :: r =>
      match skipBlank r with
      | '}' :: r => some (object [], r)
      | r => (members fuel r).map fun (ms, r) => (object ms, r)
    | s => (numeral s).map fun (n, r) => (number n, r)

/-- Reads the elements of an array, at least one, and the closing bracket. -/
def elements : (fuel : Nat) → List Char → Option (List Json × List Char)
  | 0, _ => none
  | fuel + 1, s => do
    let (j, r) ← value fuel s
    match skipBlank r with
    | ',' :: r =>
      let (js, r) ← elements fuel r
      return (j :: js, r)
    | ']' :: r => return ([j], r)
    | _ => none

/-- Reads the members of an object, at least one, and the closing brace. -/
def members : (fuel : Nat) → List Char → Option (List (Option String × Json) × List Char)
  | 0, _ => none
  | fuel + 1, s =>
    match skipBlank s with
    | '"' :: r => do
      let (name?, r) ← string r
      match skipBlank r with
      | ':' :: r =>
        let (j, r) ← value fuel r
        match skipBlank r with
        | ',' :: r =>
          let (ms, r) ← members fuel r
          return ((name?, j) :: ms, r)
        | '}' :: r => return ([(name?, j)], r)
        | _ => none
      | _ => none
    | _ => none

end

/-- The value that a whole text writes. Each character is passed by at most two calls. -/
def parse (s : List Char) : Option Json :=
  match value (2 * s.length + 2) s with
  | some (j, r) => if (skipBlank r).isEmpty then some j else none
  | none => none

end Clearance.Json
