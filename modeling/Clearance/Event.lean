import Clearance.Error

/-!
# Events

What stores, filters and loaders report about their work, and how each report reads. A report of a
request begins with the mark of that request.

## Main definitions

* `Clearance.Event` — the events.
* `Clearance.Event.severity`, `Clearance.Event.message` — their severity and their description.
-/

namespace Clearance

/-- Something worth a report. -/
inductive Event where
  /-- A label that cannot be read was taken as a denial. -/
  | labelUnreadable (l : Label) (fault : TextFault)
  /-- A label was evaluated. -/
  | labelEvaluated (l : Label) (verdict : Bool)
  /-- A triple was judged without a store of labels. -/
  | labelsNotConfigured (t : Triple) (verdict : Bool)
  /-- A label denied a triple. -/
  | tripleDenied (t : Triple) (l : Label)
  /-- All labels of a triple admitted the requester. -/
  | tripleVisible (t : Triple)
  /-- A removal was asked of a store that only grows. -/
  | removalRefused (t : Triple)
  /-- A transaction was dropped with so many changes. -/
  | changesDiscarded (count : Nat)
  /-- A database was opened. -/
  | databaseOpened (file : String)
  /-- A persistent store was opened. -/
  | storeOpened (dir : String) (format : KeyFormat) (mode : WriteMode)
  /-- A persistent store was closed. -/
  | storeClosed (dir : String)
  /-- The database of a persistent store was compacted. -/
  | storeCompacted (dir : String)
  /-- A persistent store that was open already was handed out again. -/
  | storeReused (dir : String)
  /-- A configuration was read from a file. -/
  | configurationLoaded (file : String)
  /-- Users and hierarchies were read from a file. -/
  | requestersLoaded (users hierarchies : Nat) (file : String)
deriving DecidableEq

/-- The severities of reports. -/
inductive Severity where
  /-- Something went wrong and was dealt with. -/
  | error
  /-- Something was asked that is never done. -/
  | warning
  /-- Something that operators want to know. -/
  | info
  /-- Something that only helps to explain an answer. -/
  | debug
deriving DecidableEq, Repr

/-- The name of a severity. -/
def Severity.name : Severity → String
  | error => "ERROR"
  | warning => "WARN"
  | info => "INFO"
  | debug => "DEBUG"

namespace Event

/-- The severity of an event. -/
def severity : Event → Severity
  | labelUnreadable _ _ => .error
  | labelEvaluated _ _ => .debug
  | labelsNotConfigured _ _ => .debug
  | tripleDenied _ _ => .debug
  | tripleVisible _ => .debug
  | removalRefused _ => .warning
  | changesDiscarded _ => .debug
  | databaseOpened _ => .debug
  | storeOpened _ _ _ => .info
  | storeClosed _ => .info
  | storeCompacted _ => .info
  | storeReused _ => .info
  | configurationLoaded _ => .info
  | requestersLoaded _ _ _ => .info

/-- The description of an event. -/
def message : Event → String
  | labelUnreadable l fault =>
    "[req] unparsable label '" ++ toString l ++ "' denied: " ++ ErrorKind.malformed.heading
      ++ fault.message
  | labelEvaluated l verdict => s!"[req] label '{l}' -> {verdict}"
  | labelsNotConfigured t verdict => s!"[req] {t}: labels not configured -> {verdict}"
  | tripleDenied t l => s!"[req] {t}: denied by '{l}'"
  | tripleVisible t => s!"[req] {t}: visible"
  | removalRefused t => s!"remove of {t} refused: store is append-only"
  | changesDiscarded count => s!"discarding {count} uncommitted labels operations"
  | databaseOpened file => s!"{file} opened with journal_mode=wal"
  | storeOpened dir format mode =>
    "opened labels store " ++ dir ++ " (" ++ format.name ++ ", " ++ mode.name ++ ")"
  | storeClosed dir => s!"closed labels store {dir}"
  | storeCompacted dir => s!"compacted labels store {dir}"
  | storeReused dir => s!"reusing open labels store {dir}"
  | configurationLoaded file => s!"loaded access control config from {file}"
  | requestersLoaded users hierarchies file =>
    s!"loaded {users} users and {hierarchies} hierarchies from {file}"

/-- The line that reports an event. -/
def line (e : Event) : String := e.severity.name ++ " " ++ e.message

end Event

end Clearance
