/-!
# Options of a persistent store

A persistent store writes its keys in one of three formats: the texts of the nodes, numbers from a
table of nodes, or digests of the texts. Adding labels under a key that has some either overwrites
them or merges the two lists. Encoded keys and values are held in buffers of a fixed capacity, and
the answers to lookups are cached.

## Main definitions

* `Clearance.DigestAlgorithm`, `Clearance.KeyFormat`, `Clearance.WriteMode`.
* `Clearance.StoreOptions` — the options, with their default values.
-/

namespace Clearance

/-- The digests that can stand for a node in a key. -/
inductive DigestAlgorithm where
  /-- XXH32. -/
  | xx32
  /-- XXH64. -/
  | xx64
  /-- The 128-bit variant of XXH3. -/
  | xx128
  /-- SHA-256. -/
  | sha256
  /-- SHA-512. -/
  | sha512
deriving DecidableEq, Repr

namespace DigestAlgorithm

/-- The name of a digest. -/
def name : DigestAlgorithm → String
  | xx32 => "xx32"
  | xx64 => "xx64"
  | xx128 => "xx128"
  | sha256 => "sha256"
  | sha512 => "sha512"

/-- The name of a digest with a capital letter. -/
def title : DigestAlgorithm → String
  | xx32 => "Xx32"
  | xx64 => "Xx64"
  | xx128 => "Xx128"
  | sha256 => "Sha256"
  | sha512 => "Sha512"

/-- The number of bytes of a digest. -/
def length : DigestAlgorithm → Nat
  | xx32 => 4
  | xx64 => 8
  | xx128 => 16
  | sha256 => 32
  | sha512 => 64

/-- The digest with a given name. -/
def ofName? (s : String) : Option DigestAlgorithm :=
  [xx32, xx64, xx128, sha256, sha512].find? (·.name = s)

end DigestAlgorithm

/-- The formats of keys. -/
inductive KeyFormat where
  /-- The texts of the nodes. -/
  | byString
  /-- The numbers of the nodes in a table. -/
  | byNodeId
  /-- Digests of the texts of the nodes. -/
  | byHash (algorithm : DigestAlgorithm)
deriving DecidableEq, Repr

namespace KeyFormat

/-- The name of a format. -/
def name : KeyFormat → String
  | byString => "by_string"
  | byNodeId => "by_node_id"
  | byHash algorithm => "by_hash:" ++ algorithm.name

/-- The description of a format among the options. -/
def title : KeyFormat → String
  | byString => "ByString"
  | byNodeId => "ByNodeId"
  | byHash algorithm => "ByHash \x7b algorithm: " ++ algorithm.title ++ " \x7d"

/-- Whether the nodes can be read back from a key. -/
def isReversible : KeyFormat → Bool
  | byHash _ => false
  | _ => true

/-- The length of the digest of a node, in the formats that have one. -/
def digestLength? : KeyFormat → Option Nat
  | byHash algorithm => some algorithm.length
  | _ => none

end KeyFormat

/-- What becomes of the labels that a key has when labels are added under it. -/
inductive WriteMode where
  /-- They are replaced. -/
  | overwrite
  /-- The new labels go behind them. -/
  | merge
deriving DecidableEq, Repr

namespace WriteMode

/-- The name of a mode. -/
def name : WriteMode → String
  | overwrite => "overwrite"
  | merge => "merge"

/-- The description of a mode among the options. -/
def title : WriteMode → String
  | overwrite => "Overwrite"
  | merge => "Merge"

end WriteMode

/-- The options of a persistent store. -/
structure StoreOptions where
  /-- The format of the keys. -/
  format : KeyFormat := .byString
  /-- What becomes of labels that are there already. -/
  mode : WriteMode := .overwrite
  /-- The number of bytes that a key or a list of labels may have. -/
  bufferCapacity : Nat := 8192
  /-- The number of cached answers. -/
  lookupCacheSize : Nat := 10000
deriving DecidableEq, Repr

/-- The description of the options. -/
def StoreOptions.title (o : StoreOptions) : String :=
  "SqliteOptions \x7b format: " ++ o.format.title ++ ", mode: " ++ o.mode.title
    ++ ", buffer_capacity: " ++ toString o.bufferCapacity
    ++ ", lookup_cache_size: " ++ toString o.lookupCacheSize ++ " \x7d"

end Clearance
