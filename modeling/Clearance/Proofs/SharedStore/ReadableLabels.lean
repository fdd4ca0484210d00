import Clearance.Proofs.Filter.ReadableLabels
import Clearance.Proofs.PersistentStore.Rows
import Clearance.Proofs.SharedStore.Lifetime

/-!
# What was checked can be read

Labels are checked when they are added: each must be readable, and none may stand twice. They come
back in another shape. They are stored as UTF-8 whatever their charset was, lists may be merged, and
repeated labels are dropped; answers are cached; and the store may be closed and opened again with
other options. All the same, every list of labels that a lookup gives would pass the check. So
nothing that is looked up, and no label that a configuration puts in the place of an empty list, is
ever denied for not being readable.

## Main definitions

* `Clearance.Store.IsNew` — new stores.
* `Clearance.Store.Readable` — stores whose labels can be read.
* `Clearance.SharedStore.filterFor` — filters whose labels come from a store.

## Main results

* `Clearance.SharedStore.lasting_readable` — labels stay readable.
* `Clearance.Store.Readable.valid_of_lookup` — what such stores give.
* `Clearance.SharedStore.looked_up_labels_are_readable` — lookups and filters, all through the life
  of a store.
-/

namespace Clearance

open PersistentStore (Sound Recorded)

/-! ### Stores in memory -/

namespace MemoryStore

variable {m m' : MemoryStore} {batch : List Change} {c : Change}

/-- Whether the labels of all entries can be read, and none stands twice. -/
def Readable (m : MemoryStore) : Prop :=
  ∀ (q : Triple) (ls : List Label), m.entries[q]? = some ls → Label.Valid ls

theorem readable_empty : Readable {} := by
  intro q ls h
  rw [Std.ExtTreeMap.getElem?_empty] at h
  cases h

theorem Readable.change (h : m.Readable) (hc : Label.Valid c.labels)
    (hchange : m.change c = .ok m') : m'.Readable := by
  intro q ls hq
  cases c with
  | add pattern labels =>
    rcases hshape : Shape.ofPattern? pattern with _ | shape
    · rw [MemoryStore.change, Shape.ofPattern, hshape] at hchange
      cases hchange
    rw [MemoryStore.change, Shape.ofPattern, hshape] at hchange
    cases hchange
    rw [getElem?_insert_entries] at hq
    split at hq
    · cases hq
      exact hc
    · exact h q ls hq
  | remove pattern =>
    cases hchange
    rw [getElem?_erase_entries] at hq
    split at hq
    · cases hq
    · exact h q ls hq

/-- Labels stay readable, also by batches that are refused in the middle. -/
theorem Readable.apply : ∀ {batch : List Change} {m : MemoryStore}, m.Readable →
    (∀ c ∈ batch, Label.Valid c.labels) → (m.apply batch).2.Readable
  | [], _, h, _ => h
  | c :: batch, m, h, hbatch => by
    rw [MemoryStore.apply]
    cases hchange : m.change c with
    | error e => exact h
    | ok m₁ =>
      exact (h.change (hbatch c List.mem_cons_self) hchange).apply fun c' hc' =>
        hbatch c' (List.mem_cons_of_mem _ hc')

theorem Readable.valid_of_lookup (h : m.Readable) {t : Triple} {ls : List Label}
    (hls : m.lookup t = .ok ls) : Label.Valid ls := by
  rw [lookup_eq] at hls
  refine of_run_resolve Label.valid_nil (fun shape ls hprobe => ?_) hls
  have hentry : m.entries.getD (shape.project t.canonical) [] = ls := Except.ok.inj hprobe
  rw [getD_entries] at hentry
  cases hq : m.entries[shape.project t.canonical]? with
  | none =>
    rw [hq] at hentry
    exact hentry ▸ Label.valid_nil
  | some ls' =>
    rw [hq] at hentry
    exact hentry ▸ h _ _ hq

end MemoryStore

/-! ### All stores -/

namespace Store

variable {S : Store}

/-- A new store: one in memory, the store without labels, or a persistent store that was opened on a
new database. -/
inductive IsNew : Store → Prop where
  /-- A store in memory. -/
  | memory : IsNew (.memory {})
  /-- The store without labels. -/
  | empty : IsNew .empty
  /-- A persistent store. -/
  | persistent {dir : String} {options : StoreOptions} {s : PersistentStore}
    (h : ((PersistentStore.attach dir {} options).run.run {}).1 = .ok s) : IsNew (.persistent s)

/-- A store all of whose labels can be read. -/
inductive Readable : Store → Prop where
  /-- A store in memory. -/
  | memory {m : MemoryStore} (h : m.Readable) : Readable (.memory m)
  /-- The store without labels. -/
  | empty : Readable .empty
  /-- A persistent store, whose memory agrees with its database. -/
  | persistent {s : PersistentStore} (hsound : Sound (fun _ => True) s s)
    (h : Recorded (fun ls => ∀ l ∈ ls, l.IsReadable) s.db) : Readable (.persistent s)

/-- Such a store stays one when it is read once more. -/
theorem Readable.reread {S' : Store} (h : S.Readable) (hread : S.Reread S') : S'.Readable := by
  cases hread with
  | same => exact h
  | counted reads =>
    cases h with
    | persistent hsound h => exact .persistent (hsound.congr hsound.coherent.caches).refl h

theorem IsNew.readable (h : S.IsNew) : S.Readable := by
  cases h with
  | memory => exact .memory MemoryStore.readable_empty
  | empty => exact .empty
  | persistent hattach =>
    rw [PersistentStore.run_attach_new] at hattach
    cases hattach
    exact .persistent (PersistentStore.sound_fresh _ _ _) (PersistentStore.recorded_fresh _ _ _)

/-- **What is looked up in such a store can be read**, and no label stands twice. -/
theorem Readable.valid_of_lookup (h : S.Readable) {t : Triple} {ls : List Label}
    (hls : ((Store.lookup t).run.run S).1 = .ok ls) : Label.Valid ls := by
  cases h with
  | memory h =>
    rw [run_lookup_memory] at hls
    exact h.valid_of_lookup hls
  | empty =>
    rw [run_lookup_empty] at hls
    split at hls
    · cases hls
      exact Label.valid_nil
    · cases hls
  | @persistent s hsound h =>
    obtain ⟨cache, reads, -, hanswer⟩ := s.state_lookup t
    rw [run_lookup_persistent] at hls
    exact h.of_answer ((hanswer hsound.coherent.caches).2 ls hls)

end Store

namespace SharedStore

variable {σ σ₀ : SharedStore} {ops : List Op} {op : Op}

/-- **Labels stay readable** all through the life of a store. -/
theorem lasting_readable : Lasting (fun c => Label.Valid c.labels) Store.Readable where
  apply := by
    rintro S batch h hbatch
    cases h with
    | @memory m h =>
      rw [Store.run_apply_memory]
      exact .memory (h.apply hbatch)
    | empty =>
      have hstate : ((Store.apply batch).run.run .empty).2 = .empty := by
        show ((if batch.isEmpty then return ()
          else throw (.unsupported .emptyStoreWrite) : StoreM Unit).run.run .empty).2 = _
        split <;> rfl
      rw [hstate]
      exact .empty
    | @persistent s hsound h =>
      rw [Store.run_apply_persistent]
      cases hwritten : s.written batch with
      | error e => exact .persistent hsound h
      | ok s' =>
        have hsound' := hsound.written (fun _ _ => trivial) hwritten
        exact .persistent hsound'.refl
          (h.written hsound.grown (fun c hc => (hbatch c hc).2) hwritten)
  lookup := by
    rintro S h t
    cases h with
    | memory h =>
      rw [Store.run_lookup_memory]
      exact .memory h
    | empty =>
      rw [Store.run_lookup_empty]
      exact .empty
    | @persistent s hsound h =>
      obtain ⟨cache, reads, hstate, hcaches⟩ := s.state_lookup t
      rw [Store.run_lookup_persistent, hstate]
      exact .persistent (hsound.congr (hcaches hsound.coherent.caches).1).refl h
  isEmpty {S} h := h.reread S.reread_isEmpty
  graph {S} h := h.reread S.reread_graph
  properties {S} h := h.reread S.reread_properties
  state := by
    rintro s h access closed
    cases h with
    | persistent hsound h => exact .persistent (hsound.congr hsound.coherent.caches).refl h
  attach := by
    rintro s s' access options db h hattach
    cases h with
    | persistent hsound h =>
      obtain ⟨-, rfl⟩ := hsound.attach_eq hattach
      exact .persistent (hsound.attach hattach).refl h

/-- The filter of a request whose labels come from a store. -/
def filterFor (request : Request) (policy : Policy) : Filter (StateM SharedStore) where
  request
  policy
  labels? t := some <$> lookup t

/-- **What was checked when it was added can be read when it is looked up**, whatever became of the
store meanwhile, and no label stands twice. So no filter on the store reports a label that cannot be
read, if the label that it puts in the place of an empty list comes from a configuration that was
accepted; and this label can be read too. -/
theorem looked_up_labels_are_readable {S₀ : Store} (hnew : S₀.IsNew)
    (hleads : Leads { store := S₀ } ops σ) (hops : ∀ op ∈ ops, op.isChecked = true) :
    (∀ t ls, ((lookup t).run.run σ).1 = .ok ls → ls.Nodup ∧ ∀ l ∈ ls, ∃ e, l.parse = .ok e) ∧
    ∀ text c, Configuration.parse text = .ok c →
      (∃ e, (c.policy.defaultLabel.getD .deny).parse = .ok e) ∧
      ∀ request calls (session : Session), session.Quiet →
        (Filter.after (filterFor request c.policy) calls (session, σ)).1.Quiet := by
  have hprovides : ∀ op ∈ ops, op.Provides fun c => Label.Valid c.labels := fun op hop =>
    .of_isChecked (hops op hop) (fun _ _ _ => Store.valid_of_checkEntry) fun _ => Label.valid_nil
  obtain ⟨hreadable, -⟩ := lasting_readable.leads_of_provides hnew.readable
    (collected_of_no_txns rfl) hleads hprovides
  have hvalid {τ : SharedStore} (hτ : τ.store.Readable) {t : Triple} {ls : List Label}
      (hls : ((lookup t).run.run τ).1 = .ok ls) : Label.Valid ls := by
    rw [lookup, run_onStore] at hls
    exact hτ.valid_of_lookup hls
  refine ⟨fun t ls hls => hvalid hreadable hls, fun text c hc => ?_⟩
  refine ⟨Configuration.isReadable_effective hc (List.forall_mem_nil _) _ List.mem_cons_self, ?_⟩
  intro request calls session hsession
  have hlabels (t : Triple) : Keeps (fun σ : SharedStore => σ.store.Readable)
      ((filterFor request c.policy).labels? t) fun recorded =>
        ∀ ls, recorded = some ls → ∀ l ∈ c.policy.effective ls, l.IsReadable := by
    intro τ hτ
    have hstate : ((lookup t).run.run τ).2.store.Readable := by
      rw [lookup, run_onStore]
      exact lasting_readable.lookup hτ t
    rw [filterFor, run_map]
    refine ⟨hstate, ?_⟩
    rintro recorded hrecorded ls rfl
    cases hanswer : ((lookup t).run.run τ).1 with
    | error e =>
      rw [hanswer] at hrecorded
      cases hrecorded
    | ok ls' =>
      rw [hanswer] at hrecorded
      cases hrecorded
      exact Configuration.isReadable_effective hc (hvalid hτ hanswer).2
  exact (Filter.quiet_after hlabels calls ⟨hsession, hreadable⟩).1

/-! ### A label in another charset -/

/-- A label with the letter é in Latin-1. -/
def accented : Label := ⟨[0x72, 0x3d, 0x22, 0xe9, 0x22], .latin1⟩

/-- A triple of three IRIs. -/
def thing : Triple := ⟨.uri "s", .uri "p", .uri "o"⟩

/-- Additions that name a label twice, in two charsets. -/
def twoCharsets : List Op :=
  [.addAlone thing [accented], .addAlone thing [.allow, accented.asUtf8], .close]

/-- A merging store after these additions, opened again with room for one answer in its cache. -/
def reencoded : SharedStore :=
  openedWith { mode := .merge, lookupCacheSize := 1 } (run twoCharsets
    { store := .persistent (PersistentStore.fresh "labels" { mode := .merge }) }).2

/-- An accepted configuration with a default label. -/
def defaulted : Configuration := { defaultLabel := some "r=1" }

/-- The labels come back in UTF-8, each once, and a filter judges by them without a report. -/
theorem looked_up_labels_are_readable_reencoded :
    ((lookup thing).run.run reencoded).1.toOption = some [accented.asUtf8, .allow] ∧
    ([accented.asUtf8, .allow].Nodup ∧ ∀ l ∈ [accented.asUtf8, .allow], ∃ e, l.parse = .ok e) ∧
    (Configuration.parse "\x7b\"default_label\":\"r=1\"\x7d").toOption = some defaulted ∧
    ∀ request, (Filter.after (filterFor request defaulted.policy) [.test thing]
      (Session.start {}, reencoded)).1.Quiet := by
  have hattach : ((PersistentStore.attach "labels" {} { mode := .merge }).run.run {}).1
      = .ok (PersistentStore.fresh "labels" { mode := .merge }) := by
    rw [PersistentStore.run_attach_new]
  have hleads : Leads { store := .persistent (PersistentStore.fresh "labels" { mode := .merge }) }
      twoCharsets reencoded := (Leads.here.run).openedWith _
  obtain ⟨hlookup, hfilter⟩ :=
    looked_up_labels_are_readable (.persistent hattach) hleads (by decide)
  have hlabels : ((lookup thing).run.run reencoded).1.toOption
      = some [accented.asUtf8, .allow] := by decide +kernel
  have hparse : (Configuration.parse "\x7b\"default_label\":\"r=1\"\x7d").toOption
      = some defaulted := by decide +kernel
  exact ⟨hlabels, hlookup _ _ (eq_ok_of_toOption hlabels), hparse, fun request =>
    (hfilter _ _ (eq_ok_of_toOption hparse)).2 request _ _ (Session.quiet_start {})⟩

end SharedStore

end Clearance
