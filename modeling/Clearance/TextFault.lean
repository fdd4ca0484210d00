import Clearance.Text.Quoted

/-!
# Faults of label texts

What is wrong with a text that is no expression, no attribute list or no hierarchy, and how that is
described.

## Main definitions

* `Clearance.TextFault` — the faults.
* `Clearance.TextFault.message` — their description.
-/

namespace Clearance

/-- What would have let a reader go on where it stopped. -/
inductive Expected where
  /-- A sign, a quote or a word. -/
  | sign
  /-- A name other than the truth values. -/
  | otherName
  /-- The beginning of a word. -/
  | wordStart
deriving DecidableEq, Repr

/-- What is wrong with a text. -/
inductive TextFault where
  /-- The text goes on with `rest` after it should have ended. -/
  | trailing (rest : String)
  /-- Nothing can be read at `rest`, the end of `text`. -/
  | unreadable (text rest : String) (expected : Expected)
  /-- The quote at the front of `rest`, the end of `text`, is never closed. -/
  | unclosed (text rest : String)
  /-- A hierarchy without a colon. -/
  | noColon (text : String)
  /-- A label whose bytes are not UTF-8. -/
  | notUtf8
deriving DecidableEq, Repr

/-- The code that stands for an expectation in the description of a fault. -/
def Expected.code : Expected → String
  | .sign => "Char"
  | .otherName => "Verify"
  | .wordStart => "Satisfy"

/-- The description of the place where a reader stopped. -/
def stopMessage (severity text rest code : String) : String :=
  "parse error in '" ++ text ++ "': Parsing " ++ severity ++ ": Error \x7b input: "
    ++ String.ofList (Text.quoted rest.toList) ++ ", code: " ++ code ++ " \x7d"

/-- The description of a fault. -/
def TextFault.message : TextFault → String
  | .trailing rest => "unexpected trailing: " ++ rest
  | .unreadable text rest expected => stopMessage "Error" text rest expected.code
  | .unclosed text rest => stopMessage "Failure" text rest Expected.sign.code
  | .noColon text => "hierarchy must look like 'attribute: v1, v2': " ++ text
  | .notUtf8 => "label is not valid UTF-8"

end Clearance
