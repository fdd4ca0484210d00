import Clearance.Filter
import Clearance.Json.Reader
import Clearance.Store.Options

/-!
# Configurations

The settings of a protected set of data, read from a JSON record: the sizes of the caches of a
session, the policy, whether verdicts are reported, and which store the labels are kept in. Fields
that are missing have defaults.

## Main definitions

* `Clearance.Configuration`, `Clearance.Configuration.parse` — configurations, and reading one.
* `Clearance.Configuration.sessionSizes`, `Clearance.Configuration.policy` — what they settle.
* `Clearance.StoreChoice` — the choice of a store.
-/

namespace Clearance

/-- The store that labels are kept in. -/
inductive StoreChoice where
  /-- A new store in memory. -/
  | memory
  /-- The empty store. -/
  | empty
  /-- The persistent store of a directory. -/
  | persistent (dir : String) (options : StoreOptions)
deriving DecidableEq, Repr

namespace StoreChoice

/-- The names of the fields of a persistent store, in the order of an array. -/
def fieldNames : List String := ["path", "format", "mode", "buffer_capacity", "lookup_cache_size"]

/-- The choice of a digest. -/
def digest? (j : Json) : Option DigestAlgorithm :=
  j.choice? ([.xx32, .xx64, .xx128, .sha256, .sha512].map fun a : DigestAlgorithm => (a.name, a))

/-- The choice of a key format. Only the format with digests has a field. -/
def format? : Json → Option KeyFormat
  | .object [(some "by_hash", j)] => do
    let fields ← j.record? ["algorithm"]
    return .byHash (← Json.fieldOr fields "algorithm" .xx128 digest?)
  | j => j.choice? ([.byString, .byNodeId].map fun f : KeyFormat => (f.name, f))

/-- The choice of a write mode. -/
def mode? (j : Json) : Option WriteMode :=
  j.choice? ([.overwrite, .merge].map fun m : WriteMode => (m.name, m))

/-- The options that a record gives, and the directory. -/
def persistent? (j : Json) : Option StoreChoice := do
  let defaults : StoreOptions := {}
  let fields ← j.record? fieldNames
  let dir ← (← fields.lookup "path").text?
  let format ← Json.fieldOr fields "format" defaults.format format?
  let mode ← Json.fieldOr fields "mode" defaults.mode mode?
  let bufferCapacity ←
    Json.fieldOr fields "buffer_capacity" defaults.bufferCapacity Json.unsigned?
  let lookupCacheSize ←
    Json.fieldOr fields "lookup_cache_size" defaults.lookupCacheSize Json.unsigned?
  return persistent dir { format, mode, bufferCapacity, lookupCacheSize }

/-- The choice of a kind of store, with a record of what belongs to it. Only persistent stores have
fields; an array beside another kind must be empty. -/
def ofKind? : (kind : String) → Json → Option StoreChoice
  | "memory", .array (_ :: _) => none
  | "memory", _ => some memory
  | "empty", .array (_ :: _) => none
  | "empty", _ => some empty
  | "persistent", j => persistent? j
  | _, _ => none

/-- The name of the member that holds the kind of a store. -/
def isKind (member : Option String × Json) : Bool := member.1 = some "kind"

/-- The choice that a value makes: an object with the kind among its members, or an array with the
kind in front. -/
def ofJson? : Json → Option StoreChoice
  | .object members =>
    match members.filter isKind with
    | [(_, .text (some kind))] => ofKind? kind (.object (members.filter fun m => !isKind m))
    | _ => none
  | .array (.text (some kind) :: rest) => ofKind? kind (.array rest)
  | _ => none

/-- How deeply a value that makes a choice may be nested. -/
def maxDepth : Nat := 126

/-- The choice that a plain value makes. -/
def read? (j : Json) : Option StoreChoice := if j.isPlain maxDepth then ofJson? j else none

/-- The value that chooses a key format. -/
def formatJson : KeyFormat → Json
  | .byHash algorithm => .record [("by_hash", .record [("algorithm", .ofText algorithm.name)])]
  | format => .ofText format.name

/-- The value that makes a choice. -/
def toJson : StoreChoice → Json
  | memory => .record [("kind", .ofText "memory")]
  | empty => .record [("kind", .ofText "empty")]
  | persistent dir o => .record [("kind", .ofText "persistent"), ("path", .ofText dir),
    ("format", formatJson o.format), ("mode", .ofText o.mode.name),
    ("buffer_capacity", .ofInt o.bufferCapacity), ("lookup_cache_size", .ofInt o.lookupCacheSize)]

end StoreChoice

/-- The settings of a protected set of data. -/
structure Configuration where
  /-- The number of verdicts that a session keeps; none if it is not positive. -/
  verdictCacheSize : Int := 100000
  /-- The number of hierarchies that a session keeps; none if it is not positive. -/
  hierarchyCacheSize : Int := 100
  /-- The label that stands in for an empty list. -/
  defaultLabel : Option String := none
  /-- Whether triples are visible where labels are not kept. -/
  admitsUnlabelled : Bool := true
  /-- Whether every verdict is reported. -/
  debug : Bool := false
  /-- The store that labels are kept in. -/
  labels : StoreChoice := .memory
deriving DecidableEq, Repr

namespace Configuration

/-- The names of the fields, in the order of an array. -/
def fieldNames : List String :=
  ["label_eval_cache_size", "hierarchy_cache_size", "default_label", "default_choice_no_labels",
    "debug", "labels"]

/-- A text, or nothing. -/
def label? : Json → Option (Option String)
  | .null => some none
  | j => j.text?.map some

/-- The configuration that a value gives. -/
def ofJson? (j : Json) : Option Configuration := do
  let defaults : Configuration := {}
  let fields ← j.record? fieldNames
  let verdictCacheSize ←
    Json.fieldOr fields "label_eval_cache_size" defaults.verdictCacheSize Json.signed?
  let hierarchyCacheSize ←
    Json.fieldOr fields "hierarchy_cache_size" defaults.hierarchyCacheSize Json.signed?
  let defaultLabel ← Json.fieldOr fields "default_label" defaults.defaultLabel label?
  let admitsUnlabelled ←
    Json.fieldOr fields "default_choice_no_labels" defaults.admitsUnlabelled Json.flag?
  let debug ← Json.fieldOr fields "debug" defaults.debug Json.flag?
  let labels ← Json.fieldOr fields "labels" defaults.labels StoreChoice.read?
  return { verdictCacheSize, hierarchyCacheSize, defaultLabel, admitsUnlabelled, debug, labels }

/-- The value that gives a configuration. -/
def toJson (c : Configuration) : Json :=
  .record [("label_eval_cache_size", .ofInt c.verdictCacheSize),
    ("hierarchy_cache_size", .ofInt c.hierarchyCacheSize),
    ("default_label", (c.defaultLabel.map .ofText).getD .null),
    ("default_choice_no_labels", .flag c.admitsUnlabelled), ("debug", .flag c.debug),
    ("labels", c.labels.toJson)]

/-- Checks that the default label can be read. -/
def validate (c : Configuration) : Except Error Unit :=
  match c.defaultLabel with
  | none => .ok ()
  | some text => match (Label.ofText text).parse with
    | .ok _ => .ok ()
    | .error fault => .error (.malformed fault)

/-- The configuration that a text gives. -/
def parse (text : String) : Except Error Configuration :=
  match (Json.parse text.toList).bind ofJson? with
  | none => .error .config
  | some c => do
    c.validate
    return c

/-- The sizes of the caches of a session. -/
def sessionSizes (c : Configuration) : SessionSizes where
  verdicts := BoundedCache.capacityOf c.verdictCacheSize
  hierarchies := BoundedCache.capacityOf c.hierarchyCacheSize

/-- The policy. -/
def policy (c : Configuration) : Policy where
  defaultLabel := c.defaultLabel.map Label.ofText
  admitsUnlabelled := c.admitsUnlabelled

end Configuration

end Clearance
