import Clearance.Error

/-!
# Scratch buffers

Keys and values are built in buffers of a fixed capacity. A write that does not fit is refused as a
whole and leaves the buffer as it was. Buffers are lent out by a *pool*, which keeps a few that have
been given back.

## Main definitions

* `Clearance.Scratch`, `Clearance.Scratch.put` — buffers and writing.
* `Clearance.ScratchPool` — pools of buffers.
-/

namespace Clearance

/-- A buffer of fixed capacity. -/
structure Scratch where
  /-- The greatest number of bytes. -/
  capacity : Nat
  /-- The bytes written. -/
  bytes : Bytes := []
deriving DecidableEq, Repr

namespace Scratch

/-- Writes bytes at the end of a buffer. -/
def put (b : Scratch) (bs : Bytes) : Except Error Scratch :=
  if b.bytes.length + bs.length ≤ b.capacity then .ok { b with bytes := b.bytes ++ bs }
  else .error (.overflow (b.bytes.length + bs.length) b.capacity)

/-- Writes a byte at the end of a buffer. -/
def putByte (b : Scratch) (n : Nat) : Except Error Scratch := b.put [UInt8.ofNat n]

/-- Writes a number at the end of a buffer, in four bytes. -/
def putNumber (b : Scratch) (n : Nat) : Except Error Scratch := b.put (leBytes 4 n)

/-- Writes a number over the four bytes that begin at `pos`, where there are four. -/
def setNumber (b : Scratch) (pos n : Nat) : Scratch :=
  if pos + 4 ≤ b.bytes.length then
    { b with bytes := b.bytes.take pos ++ leBytes 4 n ++ b.bytes.drop (pos + 4) }
  else b

/-- A buffer without its bytes. -/
def clear (b : Scratch) : Scratch := { b with bytes := [] }

end Scratch

/-- A pool that lends out buffers of one capacity. -/
structure ScratchPool where
  /-- The capacity of the buffers. -/
  capacity : Nat
  /-- The buffers that have been given back, the last one first. -/
  idle : List Scratch := []
deriving DecidableEq, Repr

namespace ScratchPool

/-- The greatest number of buffers that a pool keeps. -/
def maxIdle : Nat := 16

/-- Lends out a buffer: the one last given back, or a new one. -/
def acquire (p : ScratchPool) : Scratch × ScratchPool :=
  match p.idle with
  | [] => ({ capacity := p.capacity }, p)
  | b :: rest => (b, { p with idle := rest })

/-- Takes a buffer back, without its bytes, unless the pool keeps enough of them. -/
def release (p : ScratchPool) (b : Scratch) : ScratchPool :=
  if p.idle.length < maxIdle then { p with idle := b.clear :: p.idle } else p

end ScratchPool

end Clearance
