import Clearance.AttributeSet
import Clearance.BoundedCache
import Clearance.Event
import Clearance.Expr.Eval
import Clearance.Label.Validation

/-!
# Requests

A *request* is what the labels of one request for data are judged by: the attributes of the
requester, and where hierarchies come from. Its *session* keeps what has been found out on the way:
the verdicts on labels and the hierarchies of attributes, each in a cache of bounded size, so that a
label is evaluated and a hierarchy fetched anew only if it is not in its cache. A label that cannot
be read denies; every other failure is passed on and not kept.

## Main definitions

* `Clearance.Request`, `Clearance.Session` — requests and their sessions.
* `Clearance.Label.evaluate` — whether a label admits a requester.
* `Clearance.Request.verdictBy`, `Clearance.Request.verdict` — the same in a session.
-/

namespace Clearance

/-- What labels are judged by. -/
structure Request where
  /-- The attributes of the requester. -/
  attributes : AttributeSet
  /-- The hierarchy of an attribute, if it has one. -/
  hierarchy? : Attribute → Option Hierarchy
  /-- Whether every verdict is reported. -/
  debug : Bool := false

/-- The sizes of the caches of a session. -/
structure SessionSizes where
  /-- The number of verdicts kept. -/
  verdicts : Nat := 100000
  /-- The number of hierarchies kept. -/
  hierarchies : Nat := 100
deriving DecidableEq, Repr

/-- What has been found out for a request, and the work that this took. -/
structure Session where
  /-- The verdicts on labels. -/
  verdicts : BoundedCache Label Bool
  /-- The hierarchies of attributes, also of those that have none. -/
  hierarchies : BoundedCache Attribute (Option Hierarchy)
  /-- The labels that have been evaluated, in order. -/
  evaluated : List Label := []
  /-- The attributes whose hierarchies have been fetched, in order. -/
  fetched : List Attribute := []
  /-- The events, in order. -/
  events : List Event := []

/-- The session at the beginning of a request. -/
def Session.start (sizes : SessionSizes) : Session where
  verdicts := { capacity := sizes.verdicts }
  hierarchies := { capacity := sizes.hierarchies }

/-- Computations in a session that may fail. -/
abbrev SessionM := ExceptT Error (StateM Session)

/-- Whether a label admits a requester. -/
def Label.evaluate {m : Type → Type} [Monad m] (r : Requester m) (l : Label) :
    ExceptT Error m Bool :=
  match l.parse with
  | .ok e => e.evaluate r
  | .error fault => throw (.malformed fault)

namespace Request

/-- Reports an event. -/
def report (e : Event) : SessionM Unit := modify fun s => { s with events := s.events ++ [e] }

/-- Reports an event if the request asks for such reports. -/
def note (rq : Request) (e : Event) : SessionM Unit := if rq.debug then report e else return ()

/-- The hierarchy of an attribute, fetched if the session does not keep it. -/
def hierarchy (rq : Request) (a : Attribute) : StateM Session (Option Hierarchy) := do
  let s ← get
  match s.hierarchies.get a with
  | (some h?, hierarchies) =>
    set { s with hierarchies }
    return h?
  | (none, hierarchies) =>
    let h? := rq.hierarchy? a
    set { s with hierarchies := hierarchies.insert a h?, fetched := s.fetched ++ [a] }
    return h?

/-- The requester that expressions are evaluated against. -/
def requester (rq : Request) : Requester (StateM Session) where
  values a := return rq.attributes.get a
  hierarchy := rq.hierarchy

/-- The verdict that an evaluation of a label gives, which is run if the session does not keep
one. -/
def verdictBy (rq : Request) (l : Label) (evaluation : SessionM Bool) : SessionM Bool := do
  let s ← get
  match s.verdicts.get l with
  | (some v, verdicts) =>
    set { s with verdicts }
    return v
  | (none, verdicts) =>
    set { s with verdicts, evaluated := s.evaluated ++ [l] }
    let v ← tryCatch evaluation fun
      | .malformed fault => do
        report (.labelUnreadable l fault)
        return false
      | e => throw e
    rq.note (.labelEvaluated l v)
    modify fun s => { s with verdicts := s.verdicts.insert l v }
    return v

/-- The verdict on a label, evaluated if the session does not keep it. -/
def verdict (rq : Request) (l : Label) : SessionM Bool := rq.verdictBy l (l.evaluate rq.requester)

/-- The first label of a list that does not admit the requester. -/
def firstDenial (rq : Request) : List Label → SessionM (Option Label)
  | [] => return none
  | l :: ls => do
    if ← rq.verdict l then rq.firstDenial ls else return some l

end Request

end Clearance
