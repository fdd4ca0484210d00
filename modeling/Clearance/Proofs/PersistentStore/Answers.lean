import Clearance.Proofs.BoundedCache.Contents
import Clearance.Proofs.PersistentStore.Writing
import Clearance.Proofs.Steady

/-!
# The answers of a persistent store

What a persistent store answers to a lookup is determined by its rows, its table of nodes and its
mark for wildcards, as long as its database can be read. The cache holds answers of this kind only,
so that nobody can tell whether an answer came from the cache.

## Main definitions

* `Clearance.PersistentStore.Reachable` — the database can be read.
* `Clearance.PersistentStore.recorded`, `Clearance.PersistentStore.answer` — what is recorded for a
  pattern, and the labels of a triple, without a cache.

## Main results

* `Clearance.PersistentStore.run_resolve_probe`, `Clearance.PersistentStore.run_resolved` — the
  database is read for these answers.
* `Clearance.PersistentStore.run_lookup` — lookups give these answers.
-/

namespace Clearance

/-! ### Resolution -/

section Resolution

variable {σ : Type} {inv : σ → Prop}
  {probe : Shape → Triple → ExceptT Error (StateM σ) (List Label)}
  {answer : Shape → Triple → ExceptT Error Id (List Label)}

theorem steady_firstAnswer
    (h : ∀ shape key, Steady inv (probe shape key).run (answer shape key).run)
    (t : Triple) : ∀ shapes : List Shape,
    Steady inv (firstAnswer probe t shapes).run (firstAnswer answer t shapes).run
  | [] => steady_pure _
  | shape :: shapes => by
    refine Steady.bind_except (h shape (shape.project t)) fun labels _ => ?_
    cases labels.isEmpty with
    | true => exact steady_firstAnswer h t shapes
    | false => exact steady_pure _

theorem steady_resolve (h : ∀ shape key, Steady inv (probe shape key).run (answer shape key).run)
    (t : Triple) (patternsLoaded : Bool) :
    Steady inv (resolve t patternsLoaded probe).run (resolve t patternsLoaded answer).run := by
  unfold resolve
  split
  · exact steady_firstAnswer h t _
  · exact steady_pure _

end Resolution

namespace PersistentStore

variable {s : PersistentStore}

/-- Whether the database of a store can be read, be it for the first time. -/
def Reachable (s : PersistentStore) : Prop := s.access.readable = true ∧ s.access.joinable = true

theorem reachable_of_access_eq (h : s.access = {}) : s.Reachable := by
  rw [Reachable, h]
  exact ⟨rfl, rfl⟩

/-- What is recorded for the pattern of a shape, if its key can be written. -/
def recorded (s : PersistentStore) (shape : Shape) (key : Triple) : Except Error (List Label) :=
  match ((encoded s.options.bufferCapacity (encodeKey s.options.format shape key .lookup)).run.run
    s.table).1 with
  | .error e => .error e
  | .ok (false, _) => .ok []
  | .ok (true, bytes) => match s.db.find? (.ofShape shape) bytes with
    | some value => LabelList.decode value
    | none => .ok []

/-- The labels of a triple, as they are found in the database. -/
def answer (s : PersistentStore) (t : Triple) : Except Error (List Label) :=
  (resolve t s.patternsLoaded fun shape key => ExceptT.mk (m := Id) (s.recorded shape key)).run

/-- Whether a cache holds nothing but answers of the store. -/
def Caches (s : PersistentStore) (cache : BoundedCache Triple (List Label)) : Prop :=
  cache.Throughout fun t labels => s.answer t = .ok labels

/-! ### Reading -/

theorem steady_consult (h : s.Reachable) :
    Steady (fun _ => True) (consult s.access).run (.ok ()) := by
  intro n _
  refine ⟨?_, trivial⟩
  rw [consult, h.1, h.2]
  rfl

theorem steady_lift {α : Type} (r : Except Error α) :
    Steady (fun _ : Nat => True) (liftM r : ReadM α).run r := by
  cases r with
  | ok a => exact steady_pure _
  | error e => exact steady_pure _

theorem steady_probe (hreach : s.Reachable) (shape : Shape) (key : Triple) :
    Steady (fun _ => True) (s.probe shape key).run (s.recorded shape key) := by
  unfold probe recorded
  rcases (((encoded s.options.bufferCapacity
    (encodeKey s.options.format shape key .lookup)).run.run s.table).1) with e | ⟨known, bytes⟩
  · exact steady_pure _
  cases known with
  | false => exact steady_pure _
  | true =>
    refine Steady.bind_except (y := pure ()) (l := fun _ => ExceptT.mk _) (steady_consult hreach)
      fun _ _ => ?_
    cases s.db.find? (.ofShape shape) bytes with
    | some value => exact steady_lift _
    | none => exact steady_pure _

/-- **Reading the database gives what is recorded**, however often it has been read. -/
theorem run_resolve_probe (hreach : s.Reachable) (t : Triple) (loaded : Bool) (reads : Nat) :
    ((resolve t loaded s.probe).run.run reads).1
      = (resolve t loaded fun shape key => ExceptT.mk (m := Id) (s.recorded shape key)).run :=
  (steady_resolve (fun shape key => steady_probe hreach shape key) t loaded reads trivial).1

theorem run_resolved (hreach : s.Reachable) (t : Triple) (reads : Nat) :
    ((s.resolved t).run.run reads).1 = s.answer t :=
  run_resolve_probe hreach t s.patternsLoaded reads

theorem run_read {α : Type} (x : ReadM α) (s : PersistentStore) :
    (read x).run.run s
      = ((x.run.run s.reads).1, { s with reads := (x.run.run s.reads).2 }) := rfl

/-! ### Lookups -/

theorem run_lookup_closed (hclosed : s.closed = true) (t : Triple) :
    (lookup t).run.run s = (.error .closed, s) := by
  rw [lookup, run_requireOpen_bind, if_pos hclosed]

/-- Lookups give the answers that the database gives, however often it has been read, with or
without a cache that holds nothing else. -/
theorem run_lookup_of_steady {inv : Nat → Prop} {found : Triple → Except Error (List Label)}
    (hopen : s.closed = false) (hfound : ∀ t, Steady inv (s.resolved t).run (found t))
    (hreads : inv s.reads) (hcache : s.cache.Throughout fun t labels => found t = .ok labels)
    (t : Triple) : ∃ cache reads, (lookup t).run.run s
      = (found t.canonical, { s with cache, reads }) ∧
      cache.Throughout (fun t labels => found t = .ok labels) ∧ inv reads := by
  have hget := BoundedCache.Throughout.get hcache t.canonical
  have hkept := s.cache.get_fst t.canonical
  rw [lookup, run_requireOpen_bind, if_neg (Bool.eq_false_iff.1 hopen), run_get_bind]
  rcases h : s.cache.get t.canonical with ⟨kept, cache⟩
  rw [h] at hget hkept
  cases kept with
  | some labels =>
    have hlabels := BoundedCache.Throughout.of_find? hcache hkept.symm
    exact ⟨cache, s.reads, by rw [hlabels]; rfl, hget, hreads⟩
  | none =>
    obtain ⟨hresolved, hreads'⟩ := hfound t.canonical s.reads hreads
    have hread := run_read (s.resolved t.canonical) { s with cache }
    rw [run_set_bind]
    dsimp only at hread ⊢
    rw [hresolved] at hread
    cases hanswer : found t.canonical with
    | error e =>
      rw [hanswer] at hread
      rw [run_bind_error hread]
      exact ⟨cache, _, rfl, hget, hreads'⟩
    | ok labels =>
      rw [hanswer] at hread
      rw [run_bind_ok hread]
      exact ⟨cache.insert t.canonical labels, _, rfl, hget.insert hanswer, hreads'⟩

/-- **Lookups give the answers of the store**, with or without its cache. -/
theorem run_lookup (hopen : s.closed = false) (hreach : s.Reachable) (hcache : s.Caches s.cache)
    (t : Triple) : ∃ cache reads, (lookup t).run.run s
      = (s.answer t.canonical, { s with cache, reads }) ∧ s.Caches cache := by
  have hanswer (t : Triple) : Steady (fun _ => True) (s.resolved t).run (s.answer t) :=
    fun reads _ => ⟨run_resolved hreach t reads, trivial⟩
  obtain ⟨cache, reads, hrun, hcache', -⟩ := run_lookup_of_steady hopen hanswer trivial hcache t
  exact ⟨cache, reads, hrun, hcache'⟩

end PersistentStore

end Clearance
