import Clearance.BoundedCache
import Clearance.Roster

/-!
# Cached sources

A cache in front of a source keeps its answers, also that a user or a hierarchy is not known. An
answer serves until its expiry: when it is older, or the cache has dropped it, the source is asked
again. Time is counted in seconds.

## Main definitions

* `Clearance.SourceCache` — caches of answers.
* `Clearance.SourceCache.attributes`, `Clearance.SourceCache.hierarchy`,
  `Clearance.SourceCache.invalidate`.
-/

namespace Clearance

/-- An answer and the time when it was given. -/
structure Dated (ν : Type) where
  /-- The time. -/
  time : Nat
  /-- The answer. -/
  value : ν

/-- The answers of a source. -/
structure SourceCache where
  /-- The attributes of users. -/
  users : BoundedCache String (Dated (Option AttributeSet)) := { capacity := 50 }
  /-- The hierarchies of attributes. -/
  hierarchies : BoundedCache Attribute (Dated (Option Hierarchy)) := { capacity := 5 }
  /-- How long attributes serve. -/
  userExpiry : Nat := 300
  /-- How long hierarchies serve. -/
  hierarchyExpiry : Nat := 300
  /-- How often the source has been asked. -/
  asked : Nat := 0

namespace SourceCache

/-- The answer that still serves, if there is one. -/
def fresh? {ν : Type} (expiry now : Nat) (kept : Option (Dated ν)) : Option ν :=
  (kept.filter fun d => now - d.time < expiry).map Dated.value

/-- The answer to a question for which the source would now give `current`, whether the source had
to be asked for it, and the cache after that. -/
def answer {κ ν : Type} [DecidableEq κ] (c : BoundedCache κ (Dated ν)) (expiry now : Nat) (k : κ)
    (current : ν) : ν × Bool × BoundedCache κ (Dated ν) :=
  let (kept, c) := c.get k
  match fresh? expiry now kept with
  | some v => (v, false, c)
  | none => (current, true, c.insert k ⟨now, current⟩)

/-- Counts a question to the source. -/
def count (asked : Nat) (wasAsked : Bool) : Nat := if wasAsked then asked + 1 else asked

/-- The attributes of a user. -/
def attributes (source : Source) (now : Nat) (user : String) :
    StateM SourceCache (Option AttributeSet) := do
  let s ← get
  let (v, wasAsked, users) := answer s.users s.userExpiry now user (source.attributes? user)
  set { s with users, asked := count s.asked wasAsked }
  return v

/-- The hierarchy of an attribute. -/
def hierarchy (source : Source) (now : Nat) (a : Attribute) :
    StateM SourceCache (Option Hierarchy) := do
  let s ← get
  let (v, wasAsked, hierarchies) :=
    answer s.hierarchies s.hierarchyExpiry now a (source.hierarchy? a)
  set { s with hierarchies, asked := count s.asked wasAsked }
  return v

/-- Whether an attribute has a hierarchy. -/
def hasHierarchy (source : Source) (now : Nat) (a : Attribute) : StateM SourceCache Bool :=
  return (← hierarchy source now a).isSome

/-- Drops all answers. -/
def invalidate : StateM SourceCache Unit :=
  modify fun s => { s with users := s.users.clear, hierarchies := s.hierarchies.clear }

end SourceCache

end Clearance
