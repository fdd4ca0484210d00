import Clearance.Proofs.PersistentStore.Repetition
import Clearance.Proofs.SharedStore.Taken

/-!
# Merging

A store that merges keeps for every pattern all lists of labels that were ever added for it: what is
recorded is one list after the other, as UTF-8, and of repeated labels only the first counts. It
makes no difference in which transactions the same additions were made, and labels that are added
again change no lookup. A lookup gives the recorded list of the first shape for which there is one
with labels.

## Main definitions

* `Clearance.nodesOf` — the nodes of the patterns that changes are about.

## Main results

* `Clearance.Store.Follows.contains` — what a store contains after a history.
* `Clearance.Store.Follows.readsAlike` — labels that are added again.
* `Clearance.SharedStore.merging_keeps_first_occurrences`.
-/

namespace Clearance

open LabelList (stored)
open PersistentStore (Coherent Contains IsEntryOf ReadsAlike)

/-- The nodes of the canonical patterns that changes are about. -/
def nodesOf (cs : List Change) : List Node := cs.flatMap (·.pattern.canonical.nodes)

theorem nodes_subset_nodesOf {cs : List Change} {c : Change} (hc : c ∈ cs) :
    c.pattern.canonical.nodes ⊆ nodesOf cs :=
  fun _ hn => List.mem_flatMap.2 ⟨c, hc, hn⟩

namespace Store

variable {dir : String} {options : StoreOptions} {N : List Node} {s : PersistentStore} {S : Store}
  {cs more : List Change}

theorem Follows.coherent {r₀ : PersistentStore} (h : Follows dir options r₀ cs (.persistent s)) :
    s.Coherent dir options := by
  obtain ⟨_, -, ⟨⟩, hcoherent, -⟩ := h
  exact hcoherent

/-- Stores that have taken the same changes would be the same after a restart. -/
theorem Follows.reattached_eq {r₀ s' : PersistentStore}
    (h : Follows dir options r₀ cs (.persistent s))
    (h' : Follows dir options r₀ cs (.persistent s')) : s.reattached = s'.reattached := by
  obtain ⟨_, r, ⟨⟩, -, hreplay, -, hsame⟩ := h
  obtain ⟨_, r', ⟨⟩, -, hreplay', -, hsame'⟩ := h'
  cases hreplay.symm.trans hreplay'
  rw [hsame, hsame']

section Contents

variable (h : Follows dir options (.fresh dir options) cs (.persistent s))

include h

/-- **What a new store contains after a history** is what it has taken. -/
theorem Follows.contains (hdistinct : options.format.Distinct N) (hcs : nodesOf cs ⊆ N) :
    Contains N cs s := by
  obtain ⟨_, r, ⟨⟩, -, hreplay, -, hsame⟩ := h
  have hstart : Contains N [] (.fresh dir options) ∧ Coherent dir options (.fresh dir options) :=
    ⟨PersistentStore.contains_fresh dir options N, PersistentStore.coherent_fresh dir options⟩
  have hnodes : ∀ c ∈ cs, c.pattern.canonical.nodes ⊆ N :=
    fun c hc => List.Subset.trans (nodes_subset_nodesOf hc) hcs
  obtain ⟨_, ⟨⟩, hcontains, -⟩ := of_replay
    (I := fun cs r => Contains N cs r ∧ r.Coherent dir options)
    (fun ⟨hcontains, hcoherent⟩ hc hwritten =>
      ⟨hcontains.written hcoherent (hcoherent.options_eq ▸ hdistinct) hc hwritten,
        hcoherent.written hwritten⟩) hstart hnodes hreplay
  show Contains N cs s.reattached
  rw [hsame]
  exact hcontains

variable {q : Triple} (hdistinct : options.format.Distinct (.any :: (q.nodes ++ nodesOf cs)))

include hdistinct

/-- A new store contains what it has taken, also in terms of the nodes that a lookup tries. -/
theorem Follows.contains_wide : Contains (.any :: (q.nodes ++ nodesOf cs)) cs s :=
  h.contains hdistinct fun _ hn => List.mem_cons_of_mem _ (List.mem_append_right _ hn)

/-- **A lookup finds the first shape that has labels**, if there is room for the keys. -/
theorem Follows.answer_eq (hconcrete : q.isConcrete = true) (hroom : s.HasRoom q) :
    s.answer q = .ok (firstNonempty (fun shape => options.mode.merged cs (shape.project q))
      Shape.byPriority) := by
  have hoptions := h.coherent.options_eq
  have hanswer := (h.contains_wide hdistinct).answer_eq h.coherent (hoptions ▸ hdistinct)
    List.mem_cons_self
      (fun n hn => List.mem_cons_of_mem _ (List.mem_append_left _ hn)) hconcrete hroom
  rwa [hoptions] at hanswer

/-- **Labels that a lookup gives** are those of the first shape that has any. -/
theorem Follows.eq_of_answer {ls : List Label} (hls : s.answer q = .ok ls) :
    ls = firstNonempty
      (fun shape => options.mode.merged cs (shape.project q)) Shape.byPriority := by
  have hoptions := h.coherent.options_eq
  have hfound := (h.contains_wide hdistinct).eq_of_answer h.coherent (hoptions ▸ hdistinct)
    List.mem_cons_self (fun n hn => List.mem_cons_of_mem _ (List.mem_append_left _ hn)) hls
  rwa [hoptions] at hfound

end Contents

/-- **Labels that are added again** change nothing of what can be read. -/
theorem Follows.readsAlike {s' : PersistentStore} (hcontains : Contains N cs s)
    (hcoherent : s.Coherent dir options) (hdistinct : options.format.Distinct N)
    (hmode : options.mode = .merge) (hmore : ∀ c ∈ more, Repeats cs c)
    (h : Follows dir options s.reattached more (.persistent s')) : ReadsAlike s s' := by
  obtain ⟨_, r, ⟨⟩, -, hreplay, -, hsame⟩ := h
  have hstart : Contains N cs s.reattached ∧ s.reattached.Coherent dir options ∧
      ReadsAlike s s.reattached ∧ ∀ c, Repeats cs c → Repeats cs c :=
    ⟨hcontains, hcoherent.reattached, .of_reattached_eq rfl, fun _ hc => hc⟩
  obtain ⟨_, ⟨⟩, -, -, halike, -⟩ := of_replay
    (I := fun later r => Contains N later r ∧ r.Coherent dir options ∧ ReadsAlike s r ∧
      ∀ c, Repeats cs c → Repeats later c) (P := Repeats cs) (fun hr hc hwritten => by
        obtain ⟨hcontains, hcoherent, halike, hkeep⟩ := hr
        have hadd := PersistentStore.change_eq_of_written hcoherent.grown hwritten
        have hrepeats := hkeep _ hc
        have hmerge := (congrArg StoreOptions.mode hcoherent.options_eq).trans hmode
        exact ⟨hcontains.written hcoherent (hcoherent.options_eq ▸ hdistinct)
          (hcontains.nodes_subset hrepeats.1) hwritten, hcoherent.written hwritten,
          halike.trans (hcontains.readsAlike_of_written hcoherent hmerge hrepeats hwritten),
          fun c' hc' => hrepeats.concat hadd (hkeep c' hc')⟩) hstart hmore hreplay
  exact halike.trans (.of_reattached_eq hsame)

end Store

namespace SharedStore

variable {dir : String} {options : StoreOptions} {σ τ : SharedStore} {s s' s₀ : PersistentStore}

/-- Stores from which the same is read answer lookups alike. -/
theorem run_lookup_eq (hσ : σ.store = .persistent s) (hτ : τ.store = .persistent s')
    (h : s.Coherent dir options) (h' : s'.Coherent dir options) (halike : ReadsAlike s s')
    (hopen : s.closed = false) (hopen' : s'.closed = false) (t : Triple) :
    ((lookup t).run.run τ).1 = ((lookup t).run.run σ).1 := by
  rw [run_lookup_of_coherent hσ h hopen, run_lookup_of_coherent hτ h' hopen', halike.answer_eq]

/-- **Merging.** Consider a new persistent store that merges, with keys of any format, after any
history of requests, and the changes that it has taken. For every pattern for which labels were ever
added there is one list, that of all lists added for it, in the order of the commits and of the
changes in them, as UTF-8, with the first occurrence only of each label; and there are no other
rows. Every history in which the same changes are taken, in whatever transactions, gives the same
lists and the same lookups. As long as nothing but labels is added that the patterns have already,
no lookup changes. A lookup of a concrete triple gives no other labels than those of the first shape
for which there is a list with labels, and gives them if there is room for the keys that it tries.
It is assumed that digests do not collide. -/
theorem merging_keeps_first_occurrences (hmode : options.mode = .merge)
    (hnew : ((PersistentStore.attach dir {} options).run.run {}).1 = .ok s₀) (ops : List Op)
    (hdistinct : options.format.Distinct (nodesOf (taken ops { store := .persistent s₀ }))) :
    let σ₀ : SharedStore := { store := .persistent s₀ }
    let σ := (run ops σ₀).2
    let cs := taken ops σ₀
    let merged (q : Triple) : List Label := stored (added cs q).flatten
    ∃ s, σ.store = .persistent s ∧
      (∀ pattern ls, .add pattern ls ∈ cs →
        s.labelsFor? pattern.canonical = some (.ok (merged pattern.canonical))) ∧
      (∀ space k v, s.db.find? space k = some v →
        ∃ c ∈ cs, ∃ shape, IsEntryOf options.format s.table space k c.pattern.canonical shape) ∧
      (∀ ops', taken ops' σ₀ = cs → ∃ s', (run ops' σ₀).2.store = .persistent s' ∧
        (∀ q, s'.labelsFor? q = s.labelsFor? q) ∧
        (s.closed = false → s'.closed = false → ∀ t,
          ((lookup t).run.run (run ops' σ₀).2).1 = ((lookup t).run.run σ).1)) ∧
      (∀ more, (∀ c ∈ taken more σ, Repeats cs c) → ∃ s', (run more σ).2.store = .persistent s' ∧
        (s.closed = false → s'.closed = false → ∀ t,
          ((lookup t).run.run (run more σ).2).1 = ((lookup t).run.run σ).1)) ∧
      (s.closed = false → ∀ t, t.isConcrete = true →
        options.format.Distinct (.any :: (t.canonical.nodes ++ nodesOf cs)) →
        let found :=
          firstNonempty (fun shape => merged (shape.project t.canonical)) Shape.byPriority
        (∀ ls, ((lookup t).run.run σ).1 = .ok ls → ls = found) ∧
          (s.HasRoom t.canonical → ((lookup t).run.run σ).1 = .ok found)) := by
  rw [PersistentStore.run_attach_new] at hnew
  cases hnew
  intro σ₀ σ cs merged
  have hfollows := follows_fresh dir options ops
  obtain ⟨s, -, hs, hcoherent, -⟩ := id hfollows
  rw [hs] at hfollows
  have hcontains := hfollows.contains hdistinct (List.Subset.refl _)
  have hoptions := hcoherent.options_eq
  have hmerged : options.mode.merged cs = merged := by
    rw [hmode]
    rfl
  refine ⟨s, hs, fun pattern ls hmem => ?_, fun space k v hfind => ?_, fun ops' htaken => ?_,
    fun more hmore => ?_, fun hopen t ht hwide => ?_⟩
  · rw [← hmerged, ← hoptions]
    exact hcontains.labelsFor?_eq hmem
  · rw [← hoptions]
    exact hcontains.rows hfind
  · have hfollows' := follows_fresh dir options ops'
    rw [htaken] at hfollows'
    obtain ⟨s', -, hs', hcoherent', -⟩ := id hfollows'
    rw [hs'] at hfollows'
    -- Both stores are what the same changes make one by one, up to what is cached.
    have hsame := hfollows'.reattached_eq hfollows
    exact ⟨s', hs', fun q => congrArg (fun r => r.labelsFor? q) hsame, fun hopen hopen' t =>
      run_lookup_eq hs hs' hcoherent hcoherent' (.of_reattached_eq hsame) hopen hopen' t⟩
  · -- The later history starts from the store as it would be after a restart.
    have hlater : Store.Follows dir options s.reattached [] σ.store := by
      rw [hs]
      exact Store.follows_reattached hcoherent
    have hfollows' := follows_run hlater more
    obtain ⟨s', -, hs', hcoherent', -⟩ := id hfollows'
    rw [hs'] at hfollows'
    have halike := Store.Follows.readsAlike hcontains hcoherent hdistinct hmode hmore hfollows'
    exact ⟨s', hs', fun hopen hopen' t =>
      run_lookup_eq hs hs' hcoherent hcoherent' halike hopen hopen' t⟩
  · intro found
    have hfound : firstNonempty (fun shape => options.mode.merged cs (shape.project t.canonical))
        Shape.byPriority = found := by rw [hmerged]
    rw [run_lookup_of_coherent hs hcoherent hopen, ← hfound]
    exact ⟨fun ls hls => hfollows.eq_of_answer hwide hls,
      hfollows.answer_eq hwide ((Triple.isConcrete_canonical t).trans ht)⟩

/-- Options for a store that merges, with digests as keys. -/
def digested : StoreOptions := { format := .byHash .xx32, mode := .merge }

/-- A transaction that adds a label in Latin-1 for a subject, and no labels for one of its triples,
and an addition that repeats the label in UTF-8. -/
def overlapping : List Op :=
  let subject : Triple := ⟨.uri "s", .any, .any⟩
  [.start "x" .write, .add "x" subject [⟨(Label.ofText "r=1").bytes, .latin1⟩],
    .add "x" ⟨.uri "s", .uri "p", .uri "o"⟩ [], .commit "x",
    .addAlone subject [.allow, .ofText "r=1"]]

theorem merging_keeps_first_occurrences_overlapping :
    let σ := (run overlapping { store := .persistent (PersistentStore.fresh "labels" digested) }).2
    ∃ s, σ.store = .persistent s ∧
      s.labelsFor? ⟨.uri "s", .any, .any⟩ = some (.ok [.ofText "r=1", .allow]) ∧
      s.labelsFor? ⟨.uri "s", .uri "p", .uri "o"⟩ = some (.ok []) ∧
      ((lookup ⟨.uri "s", .uri "p", .uri "o"⟩).run.run σ).1 = .ok [.ofText "r=1", .allow] ∧
      ∀ ls, ((lookup ⟨.uri "s", .uri "p", .uri "o"⟩).run.run σ).1 = .ok ls →
        ls = [.ofText "r=1", .allow] := by
  let subject : Triple := ⟨.uri "s", .any, .any⟩
  let triple : Triple := ⟨.uri "s", .uri "p", .uri "o"⟩
  let recorded : List Change := [.add subject [⟨(Label.ofText "r=1").bytes, .latin1⟩],
    .add triple [], .add subject [.allow, .ofText "r=1"]]
  have hnew : ((PersistentStore.attach "labels" {} digested).run.run {}).1
      = .ok (PersistentStore.fresh "labels" digested) := by
    rw [PersistentStore.run_attach_new]
  have htaken : taken overlapping { store := .persistent (PersistentStore.fresh "labels" digested) }
      = recorded := by decide +kernel
  have hdigests : digested.format.Distinct
      (.any :: (triple.canonical.nodes ++ nodesOf recorded)) := by
    rintro algorithm heq
    cases heq
    decide +kernel
  have hdistinct : digested.format.Distinct (nodesOf recorded) :=
    hdigests.mono fun n hn => List.mem_cons_of_mem _ (List.mem_append_right _ hn)
  have hsubject : subject.canonical = subject := by decide +kernel
  have htriple : triple.canonical = triple := by decide +kernel
  have hfirst : stored (added recorded subject).flatten = [.ofText "r=1", .allow] := by
    decide +kernel
  have hempty : stored (added recorded triple).flatten = [] := by decide +kernel
  have hfound : firstNonempty (fun shape => stored (added recorded (shape.project triple)).flatten)
      Shape.byPriority = [.ofText "r=1", .allow] := by decide +kernel
  have hmem : Change.add subject [.allow, .ofText "r=1"] ∈ recorded ∧
      Change.add triple [] ∈ recorded := by decide +kernel
  have hconcrete : triple.isConcrete = true := by decide +kernel
  rw [← htaken] at hdistinct
  obtain ⟨s, hs, hlists, -, -, -, hlookup⟩ :=
    merging_keeps_first_occurrences rfl hnew overlapping hdistinct
  have hopen : ((run overlapping
      { store := .persistent (PersistentStore.fresh "labels" digested) }).2.store.persistent?.map
        (·.closed)) = some false := by decide +kernel
  rw [hs] at hopen
  rw [htaken] at hlists hlookup
  dsimp only at hlists hlookup
  have hleft := hlists subject _ hmem.1
  have hright := hlists triple _ hmem.2
  have hanswer := (hlookup (Option.some.inj hopen) triple hconcrete hdigests).1
  rw [hsubject, hfirst] at hleft
  rw [htriple, hempty] at hright
  rw [htriple, hfound] at hanswer
  exact ⟨s, hs, hleft, hright, eq_ok_of_toOption (by decide +kernel), hanswer⟩

end SharedStore

end Clearance
