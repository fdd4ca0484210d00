import Clearance.Text.Blank
import Clearance.Text.Numeric

/-!
# Lexemes of label texts

Labels, attribute lists and hierarchies are built from the same lexemes: layout, words, numbers and
quoted strings. Each reader takes a lexeme from the front of a text and returns it with the rest of
the text.

*Layout* is any run of spaces, tabs, line ends and comments. A comment goes from `#` to the end of
its line; a `#` before a carriage return that no line feed follows begins no comment.

A *word* begins with a letter or `_`, goes on with letters, digits, `_` and the marks `.`, `-`, `+`
and `:`, and does not end in one of the four marks. A *number* has an optional sign, digits with an
optional fraction, or a fraction alone, and an optional exponent. A *quoted string* stands between
two quotes of one kind; a backslash takes away the meaning of the character after it, and `\n` and
`\t` are a line feed and a tab.

A quote that is never closed ends the reading of the whole text, so readers that may meet one answer
with a `Clearance.Reading`.

## Main definitions

* `Clearance.Reading` — the outcome of a reader.
* `Clearance.Lexeme.skipLayout`, `Clearance.Lexeme.word?`, `Clearance.Lexeme.number?`,
  `Clearance.Lexeme.quoted`.
-/

namespace Clearance

/-- The outcome of reading an item from the front of a text. -/
inductive Reading (α : Type) where
  /-- The item, and the text after it. -/
  | found (item : α) (rest : List Char)
  /-- The text does not begin with such an item. -/
  | absent
  /-- A quote is never closed; the text from that quote on. -/
  | unclosed (quote : List Char)
deriving DecidableEq, Repr

/-- Applies a function to the item that was read. -/
def Reading.map {α β : Type} (f : α → β) : Reading α → Reading β
  | .found a rest => .found (f a) rest
  | .absent => .absent
  | .unclosed q => .unclosed q

/-- Goes on reading after an item. -/
def Reading.bind {α β : Type} (r : Reading α) (k : α → List Char → Reading β) : Reading β :=
  match r with
  | .found a rest => k a rest
  | .absent => .absent
  | .unclosed q => .unclosed q

/-- Reads something else if there is no such item. -/
def Reading.orElse {α : Type} (r : Reading α) (other : Unit → Reading α) : Reading α :=
  match r with
  | .absent => other ()
  | r => r

/-- The outcome of a reader that meets no quotes. -/
def Reading.ofOption {α : Type} : Option (α × List Char) → Reading α
  | some (a, rest) => .found a rest
  | none => .absent

/-- Reads an item that may be missing: without it, nothing is read. -/
def Reading.optional {α : Type} (r : Reading α) (s : List Char) : Reading (Option α) :=
  match r with
  | .found a rest => .found (some a) rest
  | .absent => .found none s
  | .unclosed q => .unclosed q

namespace Lexeme

/-! ### Layout -/

/-- The characters of layout outside comments. -/
def isSpace (c : Char) : Bool := c = ' ' || c = '\t' || c = '\n' || c = '\r'

/-- Whether the first line end in a text, if there is one, is not a lone carriage return. -/
def lineEnds : List Char → Bool
  | [] => true
  | '\n' :: _ => true
  | '\r' :: '\n' :: _ => true
  | '\r' :: _ => false
  | _ :: s => lineEnds s

/-- Drops layout, from inside a comment if `inComment` holds. -/
def skip : (inComment : Bool) → List Char → List Char
  | _, [] => []
  | true, c :: s => if c = '\n' || c = '\r' then skip false s else skip true s
  | false, c :: s =>
    if isSpace c then skip false s
    else if c = '#' && lineEnds s then skip true s
    else c :: s

/-- The text after the layout at its front. -/
def skipLayout (s : List Char) : List Char := skip false s

/-! ### Words and numbers -/

/-- The characters that a word may begin with. -/
def isWordStart (c : Char) : Bool := Text.isAlphabetic c || c = '_'

/-- The characters that a word may end with. -/
def isWordEnd (c : Char) : Bool := Text.isAlphanumeric c || c = '_'

/-- The characters that may stand inside a word. -/
def isWordMiddle (c : Char) : Bool := isWordEnd c || c = '.' || c = '-' || c = '+' || c = ':'

/-- The longest word at the front of a text, and the rest. -/
def word? (s : List Char) : Option (List Char × List Char) :=
  match s with
  | [] => none
  | c :: _ =>
    if isWordStart c then
      let w := Text.dropWhileEnd (!isWordEnd ·) (s.takeWhile isWordMiddle)
      some (w, s.drop w.length)
    else none

/-- One or more ASCII digits at the front of a text, and the rest. -/
def digits? (s : List Char) : Option (List Char × List Char) :=
  match s.takeWhile Char.isDigit with
  | [] => none
  | d :: ds => some (d :: ds, s.dropWhile Char.isDigit)

/-- A sign at the front of a text, which may be missing, and the rest. -/
def sign : List Char → List Char × List Char
  | '+' :: s => (['+'], s)
  | '-' :: s => (['-'], s)
  | s => ([], s)

/-- A point and digits at the front of a text, and the rest. -/
def fraction? : List Char → Option (List Char × List Char)
  | '.' :: s => (digits? s).map fun (d, r) => ('.' :: d, r)
  | _ => none

/-- Digits with an optional fraction, or a fraction, at the front of a text, and the rest. -/
def mantissa? (s : List Char) : Option (List Char × List Char) :=
  match digits? s with
  | some (d, r) => match fraction? r with
    | some (f, r') => some (d ++ f, r')
    | none => some (d, r)
  | none => fraction? s

/-- An exponent at the front of a text, and the rest. -/
def exponent? : List Char → Option (List Char × List Char)
  | [] => none
  | e :: s =>
    if e = 'e' || e = 'E' then
      (digits? (sign s).2).map fun (d, r) => (e :: ((sign s).1 ++ d), r)
    else none

/-- The number at the front of a text, as it is written, and the rest. -/
def number? (s : List Char) : Option (List Char × List Char) :=
  (mantissa? (sign s).2).map fun (m, r) =>
    match exponent? r with
    | some (e, r') => ((sign s).1 ++ m ++ e, r')
    | none => ((sign s).1 ++ m, r)

/-! ### Quoted strings -/

/-- What a backslash and a character stand for. -/
def unescape : Char → Char
  | 'n' => '\n'
  | 't' => '\t'
  | c => c

/-- The text up to the quote `q`, and what follows that quote. -/
def quotedBody (q : Char) : List Char → Option (List Char × List Char)
  | [] => none
  | ['\\'] => none
  | '\\' :: c :: s => (quotedBody q s).map fun (t, r) => (unescape c :: t, r)
  | c :: s => if c = q then some ([], s) else (quotedBody q s).map fun (t, r) => (c :: t, r)

/-- The quoted string at the front of a text. -/
def quoted (s : List Char) : Reading (List Char) :=
  match s with
  | [] => .absent
  | q :: body =>
    if q = '"' || q = '\'' then
      match quotedBody q body with
      | some (t, r) => .found t r
      | none => .unclosed s
    else .absent

end Lexeme

end Clearance
