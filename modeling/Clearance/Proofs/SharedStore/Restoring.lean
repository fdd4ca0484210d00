import Clearance.Proofs.Node.Canonical
import Clearance.Proofs.PersistentStore.Listing
import Clearance.Proofs.SharedStore.Merging

/-!
# Dumping and restoring

A store in memory, and a persistent store whose keys can be read back, is dumped as the list of what
is recorded in it. The dump says all there is to know for lookups: its entries can be added to a new
store in memory, in any order. They pass the check there, they are recorded as they are, since their
patterns are canonical, and the new store has the same dump and answers lookups as the old one does.
What was kept in the old store of charsets, of earlier lists or of removed patterns makes no
difference.

## Main definitions

* `Clearance.mostSpecific` — the labels that a table gives for a triple.
* `Clearance.Store.CanList` — new stores that can be dumped.
* `Clearance.Store.recorded?` — what is recorded in a store after changes.
* `Clearance.SharedStore.Shows` — stores that answer for a table of what is recorded.
* `Clearance.SharedStore.restoring` — the requests that add the entries of a dump.

## Main results

* `Clearance.SharedStore.shows_run` — stores answer for what is recorded in them.
* `Clearance.SharedStore.run_restoring` — the entries of a dump are added.
* `Clearance.SharedStore.dump_restores`.
-/

namespace Clearance

open PersistentStore (Coherent Contains)

/-- The labels that a table of what is recorded for canonical patterns gives for a canonical triple:
those of the first shape for which there are any. -/
def mostSpecific (table : Triple → Option (List Label)) (t : Triple) : List Label :=
  firstNonempty (fun shape => (table (shape.project t)).getD []) Shape.byPriority

/-- Whether a change passes the check of an addition, unless it is a removal. -/
def Change.IsAdmitted : Change → Prop
  | .add pattern ls => (∃ shape, Shape.ofPattern? pattern = some shape) ∧ Label.Valid ls
  | .remove _ => True

namespace Store

/-- A new store whose entries can be listed: one in memory, or a persistent store that was opened on
a new database and whose keys can be read back. -/
inductive CanList : Store → Prop where
  /-- A store in memory. -/
  | memory : CanList (.memory {})
  /-- A persistent store. -/
  | persistent {dir : String} {options : StoreOptions} {s : PersistentStore}
    (hattach : ((PersistentStore.attach dir {} options).run.run {}).1 = .ok s)
    (hreversible : options.format.isReversible = true) : CanList (.persistent s)

/-- What is recorded for each canonical pattern when a new store has taken changes. A store in
memory records what the last change about the pattern said, and a persistent store what was
added. -/
def recorded? : Store → List Change → Triple → Option (List Label)
  | memory _, cs => MemoryStore.lastLabels? cs
  | empty, _ => fun _ => none
  | persistent s, cs => s.options.mode.recorded? cs

/-- Whether a store is not closed. -/
def isOpen : Store → Bool
  | persistent s => !s.closed
  | _ => true

variable {S : Store} {cs : List Change} {pattern q : Triple} {ls : List Label}

theorem isAdmitted_of_checkEntry (h : S.checkEntry pattern ls = .ok ()) :
    (Change.add pattern ls).IsAdmitted :=
  ⟨exists_shape_of_checkEntry h, valid_of_checkEntry h⟩

/-- What is recorded for a pattern would pass the check if it was added for it, and the pattern is
canonical. -/
theorem isAdmitted_of_recorded? (hcs : ∀ c ∈ cs, c.IsAdmitted) (h : S.recorded? cs q = some ls) :
    q.canonical = q ∧ (Change.add q ls).IsAdmitted := by
  have hpattern {pattern : Triple} {labels : List Label} (hmem : .add pattern labels ∈ cs)
      (hq : pattern.canonical = q) :
      q.canonical = q ∧ ∃ shape, Shape.ofPattern? q = some shape := by
    subst hq
    rw [Shape.ofPattern?_canonical]
    exact ⟨pattern.canonical_canonical, (hcs _ hmem).1⟩
  cases S with
  | memory m =>
    obtain ⟨pattern, hmem, hq⟩ := MemoryStore.exists_of_lastLabels? h
    obtain ⟨hcanonical, hshape⟩ := hpattern hmem hq
    exact ⟨hcanonical, hshape, (hcs _ hmem).2⟩
  | empty => cases h
  | persistent s =>
    obtain ⟨⟨pattern, labels, hmem, hq⟩, rfl⟩ := WriteMode.recorded?_eq_some.1 h
    obtain ⟨hcanonical, hshape⟩ := hpattern hmem hq
    refine ⟨hcanonical, hshape, PersistentStore.valid_stored fun ls hls => ?_⟩
    obtain ⟨pattern', hmem', -⟩ := mem_added (WriteMode.mem_of_mem_kept hls)
    exact (hcs _ hmem').2.2

end Store

namespace SharedStore

variable {σ : SharedStore} {S₀ : Store} {ops : List Op} {table : Triple → Option (List Label)}
  {entries : List (Triple × List Label)}

/-! ### What is recorded -/

/-- Whether a store answers for a table of what is recorded for canonical patterns: its dump is that
of the table, and lookups give no other labels than the table. -/
structure Shows (table : Triple → Option (List Label)) (σ : SharedStore) : Prop where
  /-- The store can be dumped. -/
  exists_graph : ∃ g, ((onStore Store.graph).run.run σ).1 = .ok g ∧ IsDump table g
  /-- Lookups give the labels of the table. -/
  lookup_eq {t : Triple} {ls : List Label} (ht : t.isConcrete = true)
    (h : ((lookup t).run.run σ).1 = .ok ls) : ls = mostSpecific table t.canonical

/-- The changes that a store takes in a history of requests that are checked have been checked. -/
theorem isAdmitted_taken (hops : ∀ op ∈ ops, op.isChecked = true) :
    ∀ c ∈ taken ops { store := S₀ }, c.IsAdmitted :=
  forall_taken (collected_of_no_txns rfl) fun op hop =>
    .of_isChecked (hops op hop) (fun _ _ _ => Store.isAdmitted_of_checkEntry) fun _ => trivial

theorem exists_holds_of_isChecked (hops : ∀ op ∈ ops, op.isChecked = true) :
    ∃ m, (run ops { store := .memory {} }).2.store = .memory m ∧
      MemoryStore.Holds (taken ops { store := .memory {} }) m :=
  exists_holds_run fun op hop =>
    .of_isChecked (hops op hop) (fun _ _ _ => Store.exists_shape_of_checkEntry) fun _ => trivial

/-- A store in memory answers all lookups. -/
theorem run_lookup_memory (hops : ∀ op ∈ ops, op.isChecked = true) {t : Triple}
    (ht : t.isConcrete = true) :
    ((lookup t).run.run (run ops { store := .memory {} }).2).1
      = .ok (mostSpecific
        (MemoryStore.lastLabels? (taken ops { store := .memory {} })) t.canonical) := by
  obtain ⟨m, hm, h⟩ := exists_holds_of_isChecked hops
  rw [lookup, run_onStore, hm, Store.run_lookup_memory, h.lookup_eq ht]
  rfl

/-- **A store in memory** answers for what is recorded in it. -/
theorem shows_run_memory (hops : ∀ op ∈ ops, op.isChecked = true) :
    Shows (MemoryStore.lastLabels? (taken ops { store := .memory {} }))
      (run ops { store := .memory {} }).2 where
  exists_graph := by
    obtain ⟨m, hm, h⟩ := exists_holds_of_isChecked hops
    have hdistinct : m.graph.Pairwise fun e f => e.1 ≠ f.1 :=
      Std.ExtTreeMap.distinct_keys_toList.imp fun hne heq =>
        hne (Std.LawfulEqCmp.compare_eq_iff_eq.2 heq)
    have hmem (q : Triple) (ls : List Label) : (q, ls) ∈ m.graph ↔
        MemoryStore.lastLabels? (taken ops { store := .memory {} }) q = some ls := by
      rw [← h.entries]
      exact Std.ExtTreeMap.mem_toList_iff_getElem?_eq_some
    refine ⟨_, ?_, isDump_mergeSort hdistinct hmem⟩
    rw [run_onStore, hm, Store.run_graph_memory]
  lookup_eq {t ls} ht hls := by
    rw [run_lookup_memory hops ht] at hls
    exact (Except.ok.inj hls).symm

/-- **A persistent store** answers for what is recorded in it. -/
theorem shows_run_persistent {dir : String} {options : StoreOptions}
    (hreversible : options.format.isReversible = true)
    (hopen : (run ops { store := .persistent (.fresh dir options) }).2.store.isOpen = true) :
    Shows (options.mode.recorded? (taken ops { store := .persistent (.fresh dir options) }))
      (run ops { store := .persistent (.fresh dir options) }).2 := by
  have hdistinct (N : List Node) : options.format.Distinct N := by
    rintro algorithm hformat
    rw [hformat] at hreversible
    cases hreversible
  have h := follows_fresh dir options ops
  obtain ⟨s, -, hs, hcoherent, -⟩ := id h
  rw [hs] at h hopen
  have hclosed : s.closed = false := by simpa [Store.isOpen] using hopen
  refine ⟨?_, fun {t ls} _ hls => ?_⟩
  · have hoptions := hcoherent.options_eq
    have hcontains := h.contains (hdistinct _) (List.Subset.refl _)
    obtain ⟨entries, hlisting, hdump⟩ :=
      hcontains.exists_listing hcoherent (hoptions ▸ hreversible) hclosed
    rw [hoptions] at hdump
    refine ⟨_, ?_, hdump⟩
    rw [run_onStore, hs, Store.run_graph_persistent, hlisting]
    rfl
  · rw [run_lookup_of_coherent hs hcoherent hclosed] at hls
    simp only [mostSpecific, WriteMode.getD_recorded?]
    exact h.eq_of_answer (hdistinct _) hls

/-- **Stores answer for what is recorded in them**, after all histories of requests that are
checked. -/
theorem shows_run (hnew : S₀.CanList) (hops : ∀ op ∈ ops, op.isChecked = true)
    (hopen : (run ops { store := S₀ }).2.store.isOpen = true) :
    Shows (S₀.recorded? (taken ops { store := S₀ })) (run ops { store := S₀ }).2 := by
  cases hnew with
  | memory => exact shows_run_memory hops
  | persistent hattach hreversible =>
    rw [PersistentStore.run_attach_new] at hattach
    cases hattach
    exact shows_run_persistent hreversible hopen

/-! ### Restoring -/

/-- The requests that add entries to a store, one by one. -/
def restoring (entries : List (Triple × List Label)) : List Op :=
  entries.map fun e => .addAlone e.1 e.2

/-- An entry that passes the check is added to a store in memory. -/
theorem run_restoring_one {m : MemoryStore} {q : Triple} {ls : List Label}
    (hσ : σ.store = .memory m)
    (hslot : σ.writerActive = false) (hadd : (Change.add q ls).IsAdmitted) :
    ∃ σ' m', (Op.addAlone q ls).perform.run.run σ = (.ok (.flag true), σ') ∧
      σ'.store = .memory m' ∧ σ'.writerActive = false := by
  obtain ⟨⟨shape, hshape⟩, hvalid⟩ := hadd
  have hcheck : (Store.memory m).checkEntry q ls = .ok () := by
    simp only [Store.checkEntry, Shape.ofPattern, hshape]
    exact Label.validate_eq_ok_iff.2 hvalid
  have hbatch : ∀ c ∈ [Change.add q ls], c.HasShape := List.forall_mem_singleton.2 ⟨shape, hshape⟩
  obtain ⟨m', happly⟩ := m.exists_apply_eq hbatch
  have hcommit : (commitChanges [.add q ls]).run.run σ
      = (.ok (), { σ with store := .memory m', commits := σ.commits + 1 }) := by
    rw [run_commitChanges, hσ, Store.run_apply_memory, happly]
    rfl
  refine ⟨{ σ with store := .memory m', commits := σ.commits + 1 }, m', ?_, rfl, hslot⟩
  rw [Op.perform, run_map, run_addAlone, if_neg (Bool.eq_false_iff.1 hslot), hσ, hcheck, hcommit]
  rfl

/-- **Entries that pass the check are added** to a store in memory, one by one. -/
theorem run_restoring :
    ∀ {entries : List (Triple × List Label)} {σ : SharedStore} {m : MemoryStore},
    σ.store = .memory m → σ.writerActive = false →
      (∀ e ∈ entries, (Change.add e.1 e.2).IsAdmitted) →
      (∀ answer ∈ (run (restoring entries) σ).1, answer = .ok (.flag true)) ∧
        taken (restoring entries) σ = entries.map fun e => .add e.1 e.2
  | [], _, _, _, _, _ => ⟨List.forall_mem_nil _, rfl⟩
  | e :: entries, σ, m, hσ, hslot, h => by
    obtain ⟨σ', m', hrun, hσ', hslot'⟩ := run_restoring_one hσ hslot (h e List.mem_cons_self)
    obtain ⟨hanswers, htaken⟩ := run_restoring hσ' hslot' fun e' he' =>
      h e' (List.mem_cons_of_mem _ he')
    have hcons : restoring (e :: entries) = .addAlone e.1 e.2 :: restoring entries := rfl
    rw [hcons, run_cons, taken, Op.taken, hrun, List.map_cons, ← htaken]
    exact ⟨List.forall_mem_cons.2 ⟨rfl, hanswers⟩, rfl⟩

theorem isChecked_restoring (entries : List (Triple × List Label)) :
    ∀ op ∈ restoring entries, op.isChecked = true := by
  intro op hop
  obtain ⟨e, -, rfl⟩ := List.mem_map.1 hop
  rfl

/-- **Dumping and restoring.** Consider a new store in memory, or a new persistent store whose keys
hold texts or numbers, of either mode, after any history of requests that are checked, as long as it
is open. Its dump has one entry for each canonical pattern for which something is recorded, with the
list that is recorded, and the patterns ascend strictly. Any two such stores in which the same is
recorded have the same dump. When the entries of the dump are added to a new store in memory, in any
order, all are taken, and the new store has the same dump and gives the same labels for every
concrete triple for which the old one gives labels. -/
theorem dump_restores (hnew : S₀.CanList) (hops : ∀ op ∈ ops, op.isChecked = true)
    (hopen : (run ops { store := S₀ }).2.store.isOpen = true) :
    let σ := (run ops { store := S₀ }).2
    let recorded := S₀.recorded? (taken ops { store := S₀ })
    ∃ g, ((onStore Store.graph).run.run σ).1 = .ok g ∧
      g.Pairwise (fun e f => compare e.1 f.1 = .lt) ∧
      (∀ q ls, (q, ls) ∈ g ↔ recorded q = some ls) ∧
      (∀ (S₁ : Store) ops₁, S₁.CanList → (∀ op ∈ ops₁, op.isChecked = true) →
        (run ops₁ { store := S₁ }).2.store.isOpen = true →
        (∀ q, S₁.recorded? (taken ops₁ { store := S₁ }) q = recorded q) →
          ((onStore Store.graph).run.run (run ops₁ { store := S₁ }).2).1 = .ok g) ∧
      ∀ g', g'.Perm g →
        let restored := run (restoring g') { store := .memory {} }
        (∀ answer ∈ restored.1, answer = .ok (.flag true)) ∧
          ((onStore Store.graph).run.run restored.2).1 = .ok g ∧
          ∀ t ls, t.isConcrete = true → ((lookup t).run.run σ).1 = .ok ls →
            ((lookup t).run.run restored.2).1 = .ok ls := by
  intro σ recorded
  have hshows : Shows recorded σ := shows_run hnew hops hopen
  obtain ⟨g, hgraph, hdump⟩ := hshows.exists_graph
  refine ⟨g, hgraph, hdump.ascending, hdump.mem_iff, fun S₁ ops₁ hnew₁ hops₁ hopen₁ hsame => ?_,
    fun g' hperm => ?_⟩
  · obtain ⟨g₁, hgraph₁, hdump₁⟩ := (shows_run hnew₁ hops₁ hopen₁).exists_graph
    rw [funext hsame] at hdump₁
    rw [hgraph₁, hdump₁.unique hdump]
  · have hmem (q : Triple) (ls : List Label) : (q, ls) ∈ g' ↔ recorded q = some ls :=
      hperm.mem_iff.trans (hdump.mem_iff q ls)
    have hchecked (e : Triple × List Label) (he : e ∈ g') :
        e.1.canonical = e.1 ∧ (Change.add e.1 e.2).IsAdmitted :=
      Store.isAdmitted_of_recorded? (isAdmitted_taken hops) ((hmem e.1 e.2).1 he)
    obtain ⟨hanswers, htaken⟩ := run_restoring (σ := { store := .memory {} }) rfl rfl
      fun e he => (hchecked e he).2
    -- Recorded patterns are canonical, so the new store records the entries under them again.
    have htable :
        MemoryStore.lastLabels? (taken (restoring g') { store := .memory {} }) = recorded := by
      rw [htaken]
      exact funext (MemoryStore.lastLabels?_of_entries hmem fun e he => (hchecked e he).1)
    obtain ⟨g₂, hgraph₂, hdump₂⟩ := (shows_run_memory (isChecked_restoring g')).exists_graph
    rw [htable] at hdump₂
    refine ⟨hanswers, ?_, fun t ls ht hls => ?_⟩
    · rw [hgraph₂, hdump₂.unique hdump]
    · rw [run_lookup_memory (isChecked_restoring g') ht, htable, ← hshows.lookup_eq ht hls]

/-- A triple about a number, written with the given digits. -/
def numeric (digits : String) : Triple :=
  ⟨.uri "s", .uri "p", .literal ⟨digits, .datatype "http://www.w3.org/2001/XMLSchema#int"⟩⟩

/-- Additions for two spellings of a triple and for a pattern in one transaction, and of no labels
for another pattern. -/
def spelled : List Op :=
  [.start "x" .write, .add "x" (numeric "007") [⟨(Label.ofText "r=1").bytes, .latin1⟩],
    .add "x" ⟨.any, .uri "p", .any⟩ [.deny], .add "x" (numeric "+7") [.allow, .ofText "r=1"],
    .commit "x", .addAlone ⟨.uri "s", .any, .any⟩ []]

/-- Options for a store that merges, with numbers as keys. -/
def numberedMerging : StoreOptions := { format := .byNodeId, mode := .merge }

theorem dump_restores_spelled :
    let σ := (run spelled
      { store := .persistent (PersistentStore.fresh "labels" numberedMerging) }).2
    ∃ g, ((onStore Store.graph).run.run σ).1 = .ok g ∧
      (numeric "7", [.ofText "r=1", .allow]) ∈ g ∧ (⟨.uri "s", .any, .any⟩, []) ∈ g ∧
      let restored := (run (restoring g.reverse) { store := .memory {} }).2
      ((onStore Store.graph).run.run restored).1 = .ok g ∧
        ∀ t ls, t.isConcrete = true → ((lookup t).run.run σ).1 = .ok ls →
          ((lookup t).run.run restored).1 = .ok ls := by
  have hattach : ((PersistentStore.attach "labels" {} numberedMerging).run.run {}).1
      = .ok (PersistentStore.fresh "labels" numberedMerging) := by
    rw [PersistentStore.run_attach_new]
  have hopen : (run spelled { store := .persistent (PersistentStore.fresh "labels"
      numberedMerging) }).2.store.isOpen = true := by decide +kernel
  have htaken :
      taken spelled { store := .persistent (PersistentStore.fresh "labels" numberedMerging) }
      = [.add (numeric "007") [⟨(Label.ofText "r=1").bytes, .latin1⟩],
          .add ⟨.any, .uri "p", .any⟩ [.deny], .add (numeric "+7") [.allow, .ofText "r=1"],
          .add ⟨.uri "s", .any, .any⟩ []] := by decide +kernel
  obtain ⟨g, hgraph, -, hentries, -, hrestore⟩ :=
    dump_restores (.persistent hattach rfl) (by decide) hopen
  rw [htaken] at hentries
  refine ⟨g, hgraph, (hentries _ _).2 ?_, (hentries _ _).2 ?_, (hrestore _ (List.reverse_perm g)).2⟩
  · decide +kernel
  · decide +kernel

end SharedStore

end Clearance
