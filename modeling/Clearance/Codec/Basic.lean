import Clearance.Bytes.Scratch
import Clearance.NodeTable

/-!
# Computations that encode

An encoder writes into a scratch buffer and may give numbers to nodes in a node table. Both are kept
when it fails: the buffer then holds what had been written.

## Main definitions

* `Clearance.Sheet` — a buffer and a node table.
* `Clearance.EncodeM` — computations that write.
* `Clearance.KeyUse` — whether a key is written for storing or for a lookup.
-/

namespace Clearance

/-- What an encoder works on. -/
structure Sheet (τ : Type) where
  /-- The buffer that is written to. -/
  buffer : Scratch
  /-- The table that gives numbers to nodes. -/
  table : τ

/-- Computations that write and may fail. -/
abbrev EncodeM (τ : Type) := ExceptT Error (StateM (Sheet τ))

/-- What a key is written for. -/
inductive KeyUse where
  /-- To be stored: numbers may be given to nodes. -/
  | store
  /-- To be looked up: a node without a number matches nothing. -/
  | lookup
deriving DecidableEq, Repr

namespace EncodeM

variable {τ : Type}

/-- Writes bytes. -/
def put (bs : Bytes) : EncodeM τ Unit := do
  let sheet ← get
  match sheet.buffer.put bs with
  | .ok buffer => set { sheet with buffer }
  | .error e => throw e

/-- Writes the strings of a list one after the other. -/
def putAll : List Bytes → EncodeM τ Unit
  | [] => return ()
  | bs :: rest => do
    put bs
    putAll rest

end EncodeM

/-- The number of values of a four-byte number. -/
def wordSize : Nat := 1 <<< 32

end Clearance
