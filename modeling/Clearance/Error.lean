import Clearance.Expr.Printer
import Clearance.Label.Basic
import Clearance.Node.Printer
import Clearance.Store.Options
import Clearance.TextFault

/-!
# Errors

Everything that can go wrong, by cause, and the description of each cause.

## Main definitions

* `Clearance.Error` — the errors.
* `Clearance.ErrorKind`, `Clearance.Error.kind` — the kinds into which they fall.
* `Clearance.Error.message?` — their descriptions.
-/

namespace Clearance

/-- A rule that a value breaks. -/
inductive Violation where
  /-- A label stands twice in a list. -/
  | duplicateLabel (l : Label)
  /-- A hierarchy for an attribute without a name. -/
  | hierarchyUnnamed
  /-- A hierarchy for an attribute with white space in its name. -/
  | hierarchyBlank (name : String)
  /-- A hierarchy for an attribute with a colon in its name. -/
  | hierarchyColon (name : String)
  /-- A value stands twice in a hierarchy. -/
  | hierarchyRepeats (v : Value) (name : String)
  /-- A pattern has its wildcards in places where none may be. -/
  | patternShape (t : Triple)
  /-- Labels were looked up for a pattern. -/
  | lookupOfPattern (t : Triple)
  /-- The number of a node has more than 63 bits. -/
  | idOutOfRange (id : Nat)
  /-- Keys by number need a table of nodes. -/
  | noNodeTable
  /-- The length of a list of labels, or of one of them, has more than 32 bits. -/
  | listTooLong (length : Nat)
  /-- The length of the text of a node has more than 32 bits. -/
  | nodeTooLong (length : Nat)
  /-- A store was made with another key format. -/
  | formatMismatch (dir recorded requested : String)
  /-- A store is open with other options. -/
  | alreadyOpen (dir : String) (present requested : StoreOptions)

/-- A request that is never granted. -/
inductive Unsupported where
  /-- Evaluation of an ordering comparison. -/
  | ordering (a : Attribute) (op : Operator) (v : Value)
  /-- Transactions of the type that promotes to the state last committed. -/
  | readCommittedPromote
  /-- Removal, through a transaction, from a store that only grows. -/
  | removal
  /-- Removal, in a batch, from a store that only grows. -/
  | removalOf (t : Triple)
  /-- A batch of writes to the empty store. -/
  | emptyStoreWrite
  /-- An addition to the empty store. -/
  | emptyStoreAdd
  /-- Reading the nodes from keys that hold digests. -/
  | hashedKeys
  /-- Listing a store whose keys hold digests. -/
  | listing (format : String)

/-- Something a transaction may not do as things stand. -/
inductive Conflict where
  /-- The transaction has ended. -/
  | finished
  /-- A read transaction cannot become a writer. -/
  | readOnly
  /-- Another transaction is the writer. -/
  | writerActive

/-- What is wrong with stored bytes or terms. -/
inductive Corruption where
  /-- No kind of node has this tag. -/
  | unknownKind (tag : Nat)
  /-- A term that begins like a literal and is none. -/
  | malformedLiteral (term : String)
  /-- A term that is no node. -/
  | unknownTerm (term : String)
  /-- The bytes end too early. -/
  | tooShort (wanted offset left : Nat)
  /-- Integers have no such width. -/
  | integerWidth (width : Nat)
  /-- A list of labels is longer than the bytes that hold it. -/
  | labelCount (count : Nat)
  /-- The text of a node is not UTF-8. -/
  | bodyNotUtf8 (fault : Utf8.Fault)
  /-- Numbers of nodes have no such size. -/
  | unknownIdSize (size : Nat)
  /-- No node has this number. -/
  | unknownId (id : Int)
  /-- The node with this number is of another kind than its key says. -/
  | kindMismatch (id : Int) (found stated : NodeKind)
  /-- The saved numbers of nodes are not consecutive. -/
  | tableGap (expected found : Nat)
  /-- A key goes on after its triple. -/
  | trailingKey (count : Nat) (table : String)

/-- What the file system refuses. -/
inductive IoFault where
  /-- There is nothing under the path. -/
  | notFound
  /-- There is something under the path. -/
  | alreadyExists
  /-- The path leads through something that is no directory. -/
  | notADirectory
  /-- The path leads to a directory, or says so by its end, where a file is meant. -/
  | isADirectory

/-- The kinds of errors. -/
inductive ErrorKind where
  /-- A text that does not follow its grammar. -/
  | malformed
  /-- A value that breaks a rule. -/
  | invalid
  /-- A request that is never granted. -/
  | unsupported
  /-- A request that a transaction may not make as things stand. -/
  | conflict
  /-- A request to a closed store. -/
  | closed
  /-- A key or a list of labels that does not fit its buffer. -/
  | overflow
  /-- Stored bytes that cannot be read. -/
  | corrupt
  /-- A failure of the database. -/
  | backend
  /-- A configuration that cannot be read. -/
  | config
  /-- A failure of the file system. -/
  | io
deriving DecidableEq, Repr

/-- What went wrong. -/
inductive Error where
  /-- A text does not follow its grammar. -/
  | malformed (fault : TextFault)
  /-- A value breaks a rule. -/
  | invalid (violation : Violation)
  /-- A request is never granted. -/
  | unsupported (request : Unsupported)
  /-- A transaction may not do this as things stand. -/
  | conflict (cause : Conflict)
  /-- The store is closed. -/
  | closed
  /-- So many bytes are needed where the buffer has its capacity. -/
  | overflow (needed capacity : Nat)
  /-- Stored bytes cannot be read. -/
  | corrupt (fault : Corruption)
  /-- The database failed. -/
  | backend
  /-- A configuration cannot be read. -/
  | config
  /-- The file system refused. -/
  | io (fault : IoFault)
  /-- A failure that a component given from outside reports in its own words. -/
  | external (kind : ErrorKind) (text : String)

/-- The kind of an error. -/
def Error.kind : Error → ErrorKind
  | malformed _ => .malformed
  | invalid _ => .invalid
  | unsupported _ => .unsupported
  | conflict _ => .conflict
  | closed => .closed
  | overflow _ _ => .overflow
  | corrupt _ => .corrupt
  | backend => .backend
  | config => .config
  | io _ => .io
  | external kind _ => kind

/-- The description of a broken rule. -/
def Violation.message : Violation → String
  | duplicateLabel l => s!"duplicate label: {l}"
  | hierarchyUnnamed => "hierarchy attribute name is empty"
  | hierarchyBlank name => s!"hierarchy attribute name contains whitespace: '{name}'"
  | hierarchyColon name => s!"hierarchy attribute name contains ':': '{name}'"
  | hierarchyRepeats v name => s!"duplicate value {v} in hierarchy for '{name}'"
  | patternShape t => s!"pattern {t} is not one of S P O, S P _, S _ _, _ P _, _ _ _"
  | lookupOfPattern t => s!"labels lookup needs a concrete triple, got {t}"
  | idOutOfRange id => s!"node id {id} out of range"
  | noNodeTable => "by-node-id format needs a node table"
  | listTooLong length => s!"length {length} does not fit in 4 bytes"
  | nodeTooLong length => s!"node of {length} bytes is too large"
  | formatMismatch dir recorded requested =>
    s!"store at {dir} was created with format {recorded}, not {requested}"
  | alreadyOpen dir present requested =>
    "labels store " ++ dir ++ " is already open with " ++ present.title ++ ", requested "
      ++ requested.title

/-- The description of a request that is never granted. -/
def Unsupported.message : Unsupported → String
  | ordering a op v =>
    "operator '" ++ op.symbol ++ "' in '" ++ toString (Expr.relation a op v) ++ "'"
  | readCommittedPromote => "READ_COMMITTED_PROMOTE transactions"
  | removal => "remove on an append-only labels store"
  | removalOf t => s!"remove of {t} from an append-only store"
  | emptyStoreWrite => "writes to the empty labels store"
  | emptyStoreAdd => "add to the empty labels store"
  | hashedKeys => "decoding hashed node keys"
  | listing format => s!"listing entries of a {format} store"

/-- The description of a conflict. -/
def Conflict.message : Conflict → String
  | finished => "transaction already finished"
  | readOnly => "cannot promote a READ transaction to write"
  | writerActive => "cannot promote: another write transaction is active"

/-- The description of what is wrong with stored bytes. -/
def Corruption.message : Corruption → String
  | unknownKind tag => s!"unknown node type {tag}"
  | malformedLiteral term => s!"malformed literal: {term}"
  | unknownTerm term => s!"unrecognised term: {term}"
  | tooShort wanted offset left => s!"wanted {wanted} bytes at offset {offset}, {left} left"
  | integerWidth width => s!"bad integer width {width}"
  | labelCount count => s!"label count {count} exceeds the stored bytes"
  | bodyNotUtf8 fault => "node body is not UTF-8: " ++ fault.message
  | unknownIdSize size => s!"unknown id size {size}"
  | unknownId id => s!"unknown node id {id}"
  | kindMismatch id found stated =>
    s!"node id {id} is a " ++ found.name ++ ", key says " ++ stated.name
  | tableGap expected found => s!"node table gap: expected id {expected}, found {found}"
  | trailingKey count table => s!"{count} trailing bytes after key in {table}"

/-- The words with which the descriptions of one kind begin, for the kinds that have any. -/
def ErrorKind.heading : ErrorKind → String
  | malformed => "syntax error: "
  | invalid => "validation failed: "
  | unsupported => "unsupported: "
  | conflict => "consistency violation: "
  | corrupt => "corrupt stored bytes: "
  | closed => "labels store is closed"
  | backend => "backend error: "
  | config => "configuration error: "
  | io => "io error: "
  | overflow => ""

/-- The description of an error. Failures of the database, of the file system and of the reader of
configurations have none of their own. -/
def Error.message? (e : Error) : Option String :=
  match e with
  | malformed fault => some (e.kind.heading ++ fault.message)
  | invalid violation => some (e.kind.heading ++ violation.message)
  | unsupported request => some (e.kind.heading ++ request.message)
  | conflict c => some (e.kind.heading ++ c.message)
  | corrupt fault => some (e.kind.heading ++ fault.message)
  | closed => some e.kind.heading
  | overflow needed capacity =>
    some s!"encoding needs {needed} bytes but the scratch buffer holds {capacity}"
  | external kind text => some (kind.heading ++ text)
  | backend => none
  | config => none
  | io _ => none

/-- Faults of texts are errors. -/
instance : MonadLift (Except TextFault) (Except Error) where
  monadLift r := r.mapError .malformed

end Clearance
