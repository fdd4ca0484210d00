import Clearance.Proofs.PersistentStore.Soundness
import Clearance.Proofs.SharedStore.Effects

/-!
# The life of a shared store

In the course of its life a store is asked for this and that, successfully or not. If it is
persistent, its database may also get out of reach and come back, and the store may be closed and
opened again with other options. A property of stores that each of these keeps is a property of all
stores that a new store may become.

## Main definitions

* `Clearance.Store.Reread` — stores that were read once more.
* `Clearance.SharedStore.Op.changes` — the changes that a request names.
* `Clearance.SharedStore.Lasting` — properties that a store keeps.
* `Clearance.SharedStore.Leads` — what a store may become.
* `Clearance.SharedStore.Lived` — what a persistent store on a new database may become.

## Main results

* `Clearance.SharedStore.Lasting.perform`, `Clearance.SharedStore.Lasting.leads_of_provides` — one
  request, and a whole life.
* `Clearance.SharedStore.lasting_sound`, `Clearance.SharedStore.Lived.exists_sound` — persistent
  stores stay sound.
-/

namespace Clearance

namespace Store

variable {S : Store}

/-- Whether a store is another one up to the number of times that its database was read. -/
inductive Reread : Store → Store → Prop where
  /-- The store is the same. -/
  | same {S : Store} : Reread S S
  /-- The database was read. -/
  | counted {s : PersistentStore} (reads : Nat) :
    Reread (.persistent s) (.persistent { s with reads })

theorem reread_isEmpty (S : Store) : Reread S (isEmpty.run.run S).2 := by
  cases S with
  | persistent s =>
    obtain ⟨reads, hstate⟩ := s.state_inspect fun s => s.db.isEmpty
    show Reread (.persistent s) (.persistent (PersistentStore.isEmpty.run.run s).2)
    rw [PersistentStore.isEmpty_eq_inspect, hstate]
    exact .counted reads
  | _ => exact .same

theorem reread_graph (S : Store) : Reread S (graph.run.run S).2 := by
  cases S with
  | persistent s =>
    obtain ⟨reads, hstate⟩ := s.state_listing
    show Reread (.persistent s) (.persistent (PersistentStore.listing.run s).2)
    rw [hstate]
    exact .counted reads
  | _ => exact .same

theorem reread_properties (S : Store) : Reread S (properties.run.run S).2 := by
  cases S with
  | persistent s =>
    obtain ⟨reads, hstate⟩ := s.state_inspect PersistentStore.facts
    show Reread (.persistent s) (.persistent (PersistentStore.properties.run.run s).2)
    rw [PersistentStore.properties_eq_inspect, hstate]
    exact .counted reads
  | _ => exact .same

/-- A sound store that is read once more is sound. -/
theorem Reread.sound {S' : Store} {Q : Triple → Prop} {s₀ : PersistentStore} (hread : S.Reread S') :
    (∃ s, S = .persistent s ∧ PersistentStore.Sound Q s₀ s) →
      ∃ s, S' = .persistent s ∧ PersistentStore.Sound Q s₀ s := by
  cases hread with
  | same => exact id
  | counted reads =>
    rintro ⟨s, hs, h⟩
    cases hs
    exact ⟨_, rfl, h.congr h.coherent.caches⟩

end Store

namespace SharedStore

variable {P : Change → Prop} {I : Store → Prop} {σ τ σ₀ : SharedStore} {ops : List Op} {op : Op}

/-- The changes that a request names. -/
def Op.changes : Op → List Change
  | .add _ pattern labels => [.add pattern labels]
  | .remove _ pattern => [.remove pattern]
  | .addAlone pattern labels => [.add pattern labels]
  | .removeAlone pattern => [.remove pattern]
  | .apply batch => batch
  | _ => []

/-! ### Properties that last -/

/-- A property that a store keeps, whatever is asked of it, as long as all changes that are handed
to it have a property. -/
structure Lasting (P : Change → Prop) (I : Store → Prop) : Prop where
  /-- Batches keep it. -/
  apply {S : Store} {batch : List Change} (h : I S) (hbatch : ∀ c ∈ batch, P c) :
    I ((Store.apply batch).run.run S).2
  /-- Lookups keep it. -/
  lookup {S : Store} (h : I S) (t : Triple) : I ((Store.lookup t).run.run S).2
  /-- To ask whether nothing is recorded keeps it. -/
  isEmpty {S : Store} (h : I S) : I (Store.isEmpty.run.run S).2
  /-- To list the entries keeps it. -/
  graph {S : Store} (h : I S) : I (Store.graph.run.run S).2
  /-- To ask for the properties keeps it. -/
  properties {S : Store} (h : I S) : I (Store.properties.run.run S).2
  /-- It does not matter whether the database is in reach, nor whether the store is closed. -/
  state {s : PersistentStore} (h : I (.persistent s)) (access : Access) (closed : Bool) :
    I (.persistent { s with access, closed })
  /-- A store that is opened on the database has it. -/
  attach {s s' : PersistentStore} {access : Access} {options : StoreOptions} {db : Database}
    (h : I (.persistent s))
    (hattach : (PersistentStore.attach s.dir access options).run.run s.db = (.ok s', db)) :
    I (.persistent s')

namespace Lasting

variable (h : Lasting P I)

include h

theorem effect {S S' : Store} {cs : List Change} (hI : I S) (heffect : S.Effect P cs S') :
    I S' := by
  cases heffect with
  | none => exact hI
  | taken hbatch happly =>
    have hstate := h.apply hI hbatch
    rwa [happly] at hstate
  | refused hbatch happly =>
    have hstate := h.apply hI hbatch
    rwa [happly] at hstate
  | lookup t => exact h.lookup hI t
  | isEmpty => exact h.isEmpty hI
  | graph => exact h.graph hI
  | properties => exact h.properties hI
  | @closed s hs => exact h.state (hs ▸ hI) s.access true
  | reopened hs hattach => exact h.attach (hs ▸ hI) hattach

/-- **A request keeps a property that lasts.** -/
theorem perform (hI : I σ.store) (hσ : Collected P σ) (hop : op.Provides P) :
    I (op.perform.run.run σ).2.store :=
  h.effect hI (effect_perform hσ hop)

end Lasting

/-! ### Lives -/

/-- What a store may become by certain requests in turn. Meanwhile its database may get out of reach
or back into reach, and the store may be opened again with other options: its transactions are gone
then. -/
inductive Leads (σ₀ : SharedStore) : List Op → SharedStore → Prop where
  /-- Nothing happens. -/
  | here : Leads σ₀ [] σ₀
  /-- The store is asked for something. -/
  | asked {ops : List Op} {σ : SharedStore} (h : Leads σ₀ ops σ) (op : Op) :
    Leads σ₀ (ops ++ [op]) (op.perform.run.run σ).2
  /-- What can be done with the database changes. -/
  | reached {ops : List Op} {σ : SharedStore} {s : PersistentStore} (h : Leads σ₀ ops σ)
    (hs : σ.store = .persistent s) (access : Access) :
    Leads σ₀ ops { σ with store := .persistent { s with access } }
  /-- The store is opened again. -/
  | reopened {ops : List Op} {σ : SharedStore} {s s' : PersistentStore} {access : Access}
    {options : StoreOptions} {db : Database} (h : Leads σ₀ ops σ) (hs : σ.store = .persistent s)
    (hattach : (PersistentStore.attach s.dir access options).run.run s.db = (.ok s', db)) :
    Leads σ₀ ops { store := .persistent s', events := σ.events }

/-- A history is a part of a life. -/
theorem Leads.run : ∀ {more ops : List Op} {σ : SharedStore}, Leads σ₀ ops σ →
    Leads σ₀ (ops ++ more) (SharedStore.run more σ).2
  | [], ops, σ, h => by
    rw [List.append_nil]
    exact h
  | op :: more, ops, σ, h => by
    have hrest : Leads σ₀ (ops ++ [op] ++ more) (SharedStore.run (op :: more) σ).2 :=
      (h.asked op).run
    rwa [List.append_assoc] at hrest

/-- **A property that lasts is kept for life**, if requests provide changes of the right kind
only. -/
theorem Lasting.leads_of_provides (h : Lasting P I) (hI : I σ₀.store) (hσ₀ : Collected P σ₀)
    (hleads : Leads σ₀ ops σ) (hops : ∀ op ∈ ops, op.Provides P) : I σ.store ∧ Collected P σ := by
  induction hleads with
  | here => exact ⟨hI, hσ₀⟩
  | asked _ op ih =>
    obtain ⟨hI', hσ⟩ := ih fun op' hop' => hops op' (List.mem_append_left _ hop')
    have hop := hops op (List.mem_append_right _ List.mem_cons_self)
    exact ⟨h.perform hI' hσ hop, hσ.perform_of_provides hop⟩
  | reached _ hs access ih =>
    obtain ⟨hI', hσ⟩ := ih hops
    rw [hs] at hI'
    exact ⟨h.state hI' access _, hσ⟩
  | reopened _ hs hattach ih =>
    obtain ⟨hI', -⟩ := ih hops
    rw [hs] at hI'
    exact ⟨h.attach hI' hattach, collected_of_no_txns rfl⟩

/-- Requests that name changes of a kind only provide no others. -/
theorem Op.provides_of_changes {op : Op} (h : ∀ c ∈ op.changes, P c) : op.Provides P := by
  cases op with
  | add x pattern labels => exact fun _ _ => h _ List.mem_cons_self
  | addAlone pattern labels => exact fun _ _ => h _ List.mem_cons_self
  | remove x pattern => exact h _ List.mem_cons_self
  | removeAlone pattern => exact h _ List.mem_cons_self
  | apply batch => exact h
  | _ => trivial

theorem Lasting.leads (h : Lasting P I) (hI : I σ₀.store) (hσ₀ : Collected P σ₀)
    (hleads : Leads σ₀ ops σ) (hops : ∀ op ∈ ops, ∀ c ∈ op.changes, P c) :
    I σ.store ∧ Collected P σ :=
  h.leads_of_provides hI hσ₀ hleads fun op hop => Op.provides_of_changes (hops op hop)

/-! ### Persistent stores -/

open PersistentStore (Sound)

variable {Q : Triple → Prop} {dir : String} {s s₀ : PersistentStore}

/-- **Persistent stores stay sound.** -/
theorem lasting_sound : Lasting (fun c => Q c.pattern.canonical) fun S =>
    ∃ s, S = .persistent s ∧ Sound Q s₀ s where
  apply := by
    rintro _ batch ⟨s, rfl, h⟩ hbatch
    rw [Store.run_apply_persistent]
    cases hwritten : s.written batch with
    | ok s' => exact ⟨s', rfl, h.written hbatch hwritten⟩
    | error e => exact ⟨s, rfl, h⟩
  lookup := by
    rintro _ ⟨s, rfl, h⟩ t
    obtain ⟨cache, reads, hstate, hcaches⟩ := s.state_lookup t
    rw [Store.run_lookup_persistent, hstate]
    exact ⟨_, rfl, h.congr (hcaches h.coherent.caches).1⟩
  isEmpty {S} h := S.reread_isEmpty.sound h
  graph {S} h := S.reread_graph.sound h
  properties {S} h := S.reread_properties.sound h
  state := by
    rintro s ⟨_, ⟨⟩, h⟩ access closed
    exact ⟨_, rfl, h.congr h.coherent.caches⟩
  attach := by
    rintro s s' access options db ⟨_, ⟨⟩, h⟩ hattach
    exact ⟨s', rfl, h.attach hattach⟩

/-- What a persistent store for a directory that was opened on a new database may become. -/
def Lived (dir : String) (ops : List Op) (σ : SharedStore) : Prop :=
  ∃ options s₀, ((PersistentStore.attach dir {} options).run.run {}).1 = .ok s₀ ∧
    Leads { store := .persistent s₀ } ops σ

/-- A history of a new store is a life. -/
theorem lived_run (dir : String) (options : StoreOptions) (ops : List Op) :
    Lived dir ops (run ops { store := .persistent (PersistentStore.fresh dir options) }).2 :=
  ⟨options, _, by rw [PersistentStore.run_attach_new], Leads.here.run⟩

/-- A store after its database was opened again with certain options, if this succeeds. -/
def openedWith (options : StoreOptions) (σ : SharedStore) : SharedStore :=
  match σ.store with
  | .persistent s => match (PersistentStore.attach s.dir s.access options).run.run s.db with
    | (.ok s', _) => { store := .persistent s', events := σ.events }
    | (.error _, _) => σ
  | _ => σ

theorem Leads.openedWith (h : Leads σ₀ ops σ) (options : StoreOptions) :
    Leads σ₀ ops (openedWith options σ) := by
  unfold SharedStore.openedWith
  split
  · next s hs =>
    split
    · next s' db hattach => exact h.reopened hs hattach
    · exact h
  · exact h

/-- **A persistent store is sound all its life.** -/
theorem Lived.exists_sound (h : Lived dir ops σ)
    (hops : ∀ op ∈ ops, ∀ c ∈ op.changes, Q c.pattern.canonical) :
    ∃ s, σ.store = .persistent s ∧ Sound Q s s := by
  obtain ⟨options, s₀, hattach, hleads⟩ := h
  rw [PersistentStore.run_attach_new] at hattach
  cases hattach
  obtain ⟨⟨s, hs, hsound⟩, -⟩ := lasting_sound.leads
    ⟨_, rfl, PersistentStore.sound_fresh Q dir options⟩ (collected_of_no_txns rfl) hleads hops
  exact ⟨s, hs, hsound.refl⟩

/-- **What a sound store has stays**, whatever becomes of the store. -/
theorem exists_of_leads (hs : σ.store = .persistent s) (h : Sound (fun _ => True) s s)
    (hleads : Leads σ ops τ) : ∃ s', τ.store = .persistent s' ∧ Sound (fun _ => True) s s' := by
  have hcollected : Collected (fun _ => True) σ := fun _ _ _ _ _ => trivial
  exact (lasting_sound.leads ⟨s, hs, h⟩ hcollected hleads fun _ _ _ _ => trivial).1

end SharedStore

end Clearance
