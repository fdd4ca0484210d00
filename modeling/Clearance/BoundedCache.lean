/-!
# Bounded caches

A cache keeps at most as many entries as its capacity allows. Entries that are read or written again
are *marked*. When a new entry needs room, a hand moves over the slots, from where it was left and
around to the first slot after the last one: it takes the mark from each marked slot and frees the
first one without a mark. The last entry then moves into the free slot. A cache of capacity zero
keeps nothing.

## Main definitions

* `Clearance.BoundedCache` — caches, which count hits and misses.
* `Clearance.BoundedCache.get`, `Clearance.BoundedCache.insert`,
  `Clearance.BoundedCache.getOrInsert`, `Clearance.BoundedCache.clear`.
-/

namespace Clearance

/-- An entry of a cache. -/
structure Slot (κ ν : Type) where
  /-- The key. -/
  key : κ
  /-- The value. -/
  value : ν
  /-- Whether the entry has been used again since the hand last passed. -/
  marked : Bool := false
deriving DecidableEq, Repr

/-- A cache of bounded size. -/
structure BoundedCache (κ ν : Type) where
  /-- The greatest number of entries. -/
  capacity : Nat
  /-- The entries. -/
  slots : List (Slot κ ν) := []
  /-- The slot where the hand was left. -/
  hand : Option Nat := none
  /-- How often a key that was asked for had an entry. -/
  hits : Nat := 0
  /-- How often a key that was asked for had none. -/
  misses : Nat := 0
deriving DecidableEq, Repr

namespace BoundedCache

variable {κ ν : Type}

/-- The capacity that a number asks for: negative numbers ask for none. -/
def capacityOf (n : Int) : Nat := n.toNat

/-- Whether the cache can keep anything. -/
def isEnabled (c : BoundedCache κ ν) : Bool := 0 < c.capacity

/-- The number of entries. -/
def size (c : BoundedCache κ ν) : Nat := c.slots.length

/-- The value kept for a key. -/
def find? [DecidableEq κ] (c : BoundedCache κ ν) (k : κ) : Option ν :=
  (c.slots.find? fun s => s.key = k).map Slot.value

/-- Asks for the value kept for a key. -/
def get [DecidableEq κ] (c : BoundedCache κ ν) (k : κ) : Option ν × BoundedCache κ ν :=
  match c.find? k with
  | some v =>
    let slots := c.slots.map fun s => if s.key = k then { s with marked := true } else s
    (some v, { c with slots, hits := c.hits + 1 })
  | none => (none, { c with misses := c.misses + 1 })

/-- Moves the hand over at most `fuel` slots from the `i`-th on, to the first one without a mark. -/
def sweep : (fuel i : Nat) → List (Slot κ ν) → Option Nat × List (Slot κ ν)
  | 0, _, slots => (none, slots)
  | fuel + 1, i, slots =>
    match slots[i]? with
    | none => (none, slots)
    | some s =>
      if s.marked then
        sweep fuel (if i + 1 < slots.length then i + 1 else 0)
          (slots.set i { s with marked := false })
      else (some i, slots)

/-- Frees the `i`-th slot, into which the last entry moves. -/
def removeAt (c : BoundedCache κ ν) (i : Nat) : BoundedCache κ ν :=
  if i + 1 = c.slots.length then
    { c with slots := c.slots.dropLast, hand := if i = 0 then none else some 0 }
  else match c.slots.getLast? with
    | none => c
    | some last => { c with slots := (c.slots.set i last).dropLast, hand := some i }

/-- Lets the hand go around once and frees the first slot without a mark, if it finds one. -/
def evictOnce (c : BoundedCache κ ν) : BoundedCache κ ν :=
  let (victim, slots) := sweep c.slots.length (c.hand.getD 0) c.slots
  match victim with
  | none => { c with slots }
  | some i => { c with slots }.removeAt i

/-- Makes room for an entry. When all slots are marked the hand has to go around twice. -/
def evict (c : BoundedCache κ ν) : BoundedCache κ ν :=
  let once := c.evictOnce
  if once.slots.length < c.slots.length then once else once.evictOnce

/-- Keeps a value for a key. -/
def insert [DecidableEq κ] (c : BoundedCache κ ν) (k : κ) (v : ν) : BoundedCache κ ν :=
  if c.capacity = 0 then c
  else if c.slots.any fun s => s.key = k then
    { c with slots := c.slots.map fun s => if s.key = k then ⟨k, v, true⟩ else s }
  else
    let c := if c.capacity ≤ c.slots.length then c.evict else c
    { c with slots := c.slots ++ [⟨k, v, false⟩] }

/-- The value kept for a key, or else a computed one, which is kept unless the computation fails. -/
def getOrInsert [DecidableEq κ] {m : Type → Type} [Monad m] {ε : Type}
    (c : BoundedCache κ ν) (k : κ) (compute : m (Except ε ν)) :
    m (Except ε ν × BoundedCache κ ν) := do
  match c.get k with
  | (some v, c) => return (.ok v, c)
  | (none, c) => match ← compute with
    | .ok v => return (.ok v, c.insert k v)
    | .error e => return (.error e, c)

/-- Drops all entries. The counts of hits and misses stay. -/
def clear (c : BoundedCache κ ν) : BoundedCache κ ν := { c with slots := [], hand := none }

end BoundedCache

end Clearance
