import Clearance.Proofs.PersistentStore.Recached
import Clearance.Proofs.SharedStore.Agreement

/-!
# The size of the cache

How many answers a persistent store may cache is a matter of speed alone. Stores that are opened on
the same database with caches of different sizes, be it none at all, give the same answers and the
same errors to every history of requests, with any transactions, refused batches and restarts, and
write the same database. A cached answer is thus dropped by every commit that could change it, and
nothing else than a commit changes an answer.

## Main definitions

* `Clearance.SharedStore.account`, `Clearance.SharedStore.serve` — what comes of a history, and of a
  history of a store that is opened on a database.

## Main results

* `Clearance.Store.bisimulation_recached` — stores with other caches answer all histories alike.
* `Clearance.SharedStore.serve_eq_of_cache_size`.
-/

namespace Clearance

variable {size : Nat}

namespace SharedStore

open PersistentStore (Recached)

/-! ### Opening again -/

theorem agree_reopen_recached :
    Agree (Over (Store.Both (Recached size))) reopen reopen := by
  intro σ τ hστ
  obtain ⟨s, s', hσ, hτ, h⟩ := hστ.store.exists_eq
  rw [run_reopen_eq hσ, run_reopen_eq hτ]
  have hattach : ((PersistentStore.attach s'.dir s'.access s'.options).run.run s'.db).1
      = ((PersistentStore.attach s.dir s.access s.options).run.run s.db).1.map fun r =>
          r.recached size { capacity := size } 0 := by
    obtain ⟨-, -⟩ := h
    exact congrArg Prod.fst (PersistentStore.run_attach_recached s.dir s.access s.options s.db)
  rw [hattach]
  cases hopened : ((PersistentStore.attach s.dir s.access s.options).run.run s.db).1 with
  | error e => exact ⟨rfl, hστ⟩
  | ok r =>
    exact ⟨rfl, .persistent (PersistentStore.recached_of_attach hopened), rfl, rfl, rfl,
      hστ.events_eq⟩

end SharedStore

/-- **Stores with other caches answer all histories alike.** -/
theorem Store.bisimulation_recached :
    SharedStore.Bisimulation (Store.Both (PersistentStore.Recached size)) where
  checkEntry S T pattern labels h := by
    obtain ⟨s, s', rfl, rfl, -⟩ := h.exists_eq
    rfl
  supportsRemove S T h := by
    obtain ⟨s, s', rfl, rfl, -⟩ := h.exists_eq
    rfl
  compact S T h := by
    obtain ⟨s, s', rfl, rfl, hs⟩ := h.exists_eq
    obtain ⟨-, -⟩ := hs
    rfl
  apply batch := agree_both (fun _ => rfl) (PersistentStore.agree_apply_recached batch)
  lookup t := agree_both (fun _ => rfl) (PersistentStore.agree_lookup_recached t)
  isEmpty := agree_both (fun _ => rfl) (PersistentStore.agree_inspect fun _ _ _ => rfl)
  graph := agree_graph_both fun _ _ => PersistentStore.listing_recached
  properties := agree_both (fun _ => rfl) (PersistentStore.agree_inspect fun _ _ _ => rfl)
  close := SharedStore.agree_close_both fun s s' h => by
    have hshut := h.setClosed
    obtain ⟨-, -⟩ := h
    exact ⟨rfl, rfl, hshut⟩

namespace SharedStore

/-! ### Histories -/

/-- The answers to a history, with the database and the events after it. -/
def account (ops : List Op) (σ : SharedStore) :
    List (Except Error Answer) × Option Database × List Event :=
  ((run ops σ).1, (run ops σ).2.store.database?, (run ops σ).2.events)

/-- The account of a history of a store that is opened on a database, if it can be opened; and the
database as opening the store leaves it. -/
def serve (dir : String) (access : Access) (options : StoreOptions) (db : Database)
    (ops : List Op) :
    Except Error (List (Except Error Answer) × Option Database × List Event) × Database :=
  let r := (PersistentStore.attach dir access options).run.run db
  (r.1.map fun s => account ops { store := .persistent s }, r.2)

theorem account_recached {s s' : PersistentStore} (h : PersistentStore.Recached size s s')
    (ops : List Op) :
    account ops { store := .persistent s } = account ops { store := .persistent s' } := by
  have hstart : Over (Store.Both (PersistentStore.Recached size)) { store := .persistent s }
      { store := .persistent s' } := ⟨.persistent h, rfl, rfl, rfl, rfl⟩
  obtain ⟨hanswers, hend⟩ :=
    Store.bisimulation_recached.run_agree ops (fun _ => agree_reopen_recached) hstart
  have hdatabase : (run ops { store := .persistent s }).2.store.database?
      = (run ops { store := .persistent s' }).2.store.database? := by
    obtain ⟨r, r', hr, hr', hrr'⟩ := hend.store.exists_eq
    rw [hr, hr']
    obtain ⟨-, -⟩ := hrr'
    rfl
  rw [account, account, hanswers, hdatabase, hend.events_eq]

/-- A store with a cache of another size answers like the store itself. -/
theorem serve_recached (dir : String) (access : Access) (options : StoreOptions) (db : Database)
    (ops : List Op) :
    serve dir access { options with lookupCacheSize := size } db ops
      = serve dir access options db ops := by
  rw [serve, serve, PersistentStore.run_attach_recached]
  dsimp only
  cases hopened : ((PersistentStore.attach dir access options).run.run db).1 with
  | error e => rfl
  | ok s =>
    show (Except.ok (account ops _), _) = (Except.ok (account ops _), _)
    rw [account_recached (PersistentStore.recached_of_attach hopened)]

/-- **Cache transparency.** Two stores are opened on one and the same database, new or not, which
they may or may not be able to read and to write, with options that differ in nothing but the number
of answers that they cache. Then both are refused alike; or they answer every history alike, request
by request: with the same labels, entries and properties, and with the same errors. Their databases
and what they have reported are the same in the end. -/
theorem serve_eq_of_cache_size (dir : String) (access : Access) (options : StoreOptions)
    (size size' : Nat) (db : Database) (ops : List Op) :
    serve dir access { options with lookupCacheSize := size } db ops
      = serve dir access { options with lookupCacheSize := size' } db ops :=
  (serve_recached dir access options db ops).trans (serve_recached dir access options db ops).symm

end SharedStore

end Clearance
