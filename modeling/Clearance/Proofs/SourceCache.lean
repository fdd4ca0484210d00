import Mathlib.Data.List.Induction
import Clearance.Proofs.BoundedCache.Keys
import Clearance.SourceCache

/-!
# Answers from a cache in front of a source

A source changes while a cache in front of it keeps its answers. A question that goes through the
cache is *fetched* when the source is asked for it. Whatever came before, and whatever room the
cache has, the answer to a question is what the source said when the question was fetched the last
time, and nothing that was fetched before the cache was emptied is ever answered again. So the
answer is that of the source as it is now, if nothing is kept, or if the source has not changed
since the cache was emptied. As long as there is room for all questions and no answer has run out, a
question is fetched once only, also if what it asks for is not known.

## Main definitions

* `Clearance.SourceCache.Topic`, `Clearance.SourceCache.ask` — the questions, to which users and
  hierarchies give two topics.
* `Clearance.SourceCache.Front`, `Clearance.SourceCache.Move` — a source with a cache in front of
  it, and what happens to them.
* `Clearance.SourceCache.Front.Fetches`, `Clearance.SourceCache.Front.IsLastFetch` — questions for
  which the source is asked, and the last time when it was.

## Main results

* `Clearance.SourceCache.Front.ask_cases` — what a question does.
* `Clearance.SourceCache.Front.isLastFetch_kept` — what is kept was fetched last.
* `Clearance.SourceCache.Front.answers_come_from_last_fetches`
-/

namespace Clearance.SourceCache

/-! ### Questions -/

/-- What a source can be asked for. -/
inductive Topic where
  /-- The attributes of users. -/
  | user
  /-- The hierarchies of attributes. -/
  | hierarchy
deriving DecidableEq

/-- The answers to questions of a topic. -/
abbrev Topic.Answer : Topic → Type
  | .user => Option AttributeSet
  | .hierarchy => Option Hierarchy

/-- What a source says of a user or an attribute. -/
def said (source : Source) : (p : Topic) → String → p.Answer
  | .user => source.attributes?
  | .hierarchy => source.hierarchy?

/-- The answers of a topic that are kept. -/
def kept (c : SourceCache) : (p : Topic) → BoundedCache String (Dated p.Answer)
  | .user => c.users
  | .hierarchy => c.hierarchies

/-- How long answers of a topic serve. -/
def expiry (c : SourceCache) : Topic → Nat
  | .user => c.userExpiry
  | .hierarchy => c.hierarchyExpiry

/-- A question of a topic. -/
def ask (source : Source) (now : Nat) : (p : Topic) → String → StateM SourceCache p.Answer
  | .user => attributes source now
  | .hierarchy => hierarchy source now

section Answers

variable {κ ν : Type} [DecidableEq κ] {c : BoundedCache κ (Dated ν)} {duration now : Nat} {k : κ}
  {d : Dated ν}

theorem fresh?_some (duration now : Nat) (d : Dated ν) :
    fresh? duration now (some d) = if now - d.time < duration then some d.value else none := by
  simp only [fresh?, Option.filter_some, decide_eq_true_eq]
  split <;> rfl

theorem count_eq_succ_iff {asked : Nat} {wasAsked : Bool} :
    count asked wasAsked = asked + 1 ↔ wasAsked = true := by
  cases wasAsked <;> simp [count]

/-- An answer that serves is given again. -/
theorem answer_of_fresh (hd : c.find? k = some d) (hfresh : now - d.time < duration) (current : ν) :
    answer c duration now k current = (d.value, false, (c.get k).2) := by
  have hserves : fresh? duration now (c.get k).1 = some d.value := by
    rw [c.get_fst, hd, fresh?_some, if_pos hfresh]
  rcases hget : c.get k with ⟨found, c'⟩
  rw [hget] at hserves
  simp only [answer, hget, hserves]

/-- If there is none, the source is asked. -/
theorem answer_of_not_fresh (h : ∀ d, c.find? k = some d → ¬ now - d.time < duration)
    (current : ν) :
    answer c duration now k current = (current, true, (c.get k).2.insert k ⟨now, current⟩) := by
  have hnone : fresh? duration now (c.get k).1 = none := by
    rw [c.get_fst]
    rcases hfound : c.find? k with _ | d
    · rfl
    · rw [fresh?_some, if_neg (h d hfound)]
  rcases hget : c.get k with ⟨found, c'⟩
  rw [hget] at hnone
  simp only [answer, hget, hnone]

end Answers

/-! ### A source and its cache -/

/-- A source with a cache in front of it. -/
structure Front where
  /-- The source as it is now. -/
  source : Source
  /-- The cache. -/
  cache : SourceCache

/-- What happens to a source with a cache in front of it. -/
inductive Move where
  /-- A question is asked. -/
  | ask (now : Nat) (p : Topic) (key : String)
  /-- The source changes. -/
  | change (source : Source)
  /-- The cache is emptied. -/
  | invalidate

/-- What a move asks for, if it is a question of a topic. -/
def Move.key? (p : Topic) : Move → Option String
  | .ask _ p' key => if p' = p then some key else none
  | .change _ => none
  | .invalidate => none

namespace Front

variable {f : Front} {moves early late : List Move} {now : Nat} {p p' : Topic} {key : String}

/-- A source with an empty cache in front of it. -/
def start (source : Source) (users hierarchies userExpiry hierarchyExpiry : Nat) : Front where
  source
  cache := {
    users := { capacity := users }
    hierarchies := { capacity := hierarchies }
    userExpiry, hierarchyExpiry }

/-- The answer to a question. -/
def answer (f : Front) (now : Nat) (p : Topic) (key : String) : p.Answer :=
  ((ask f.source now p key).run f.cache).1

/-- What a move makes of a source and its cache. -/
def perform (f : Front) : Move → Front
  | .ask now p key => { f with cache := ((ask f.source now p key).run f.cache).2 }
  | .change source => { f with source }
  | .invalidate => { f with cache := (SourceCache.invalidate.run f.cache).2 }

/-- What some moves make of a source and its cache. -/
def after (f : Front) (moves : List Move) : Front := moves.foldl perform f

theorem after_concat (f : Front) (moves : List Move) (m : Move) :
    f.after (moves ++ [m]) = (f.after moves).perform m := by
  simp [after]

theorem after_append (f : Front) (moves late : List Move) :
    f.after (moves ++ late) = (f.after moves).after late := List.foldl_append

/-- Whether the source is asked for a question. -/
def Fetches (f : Front) (now : Nat) (p : Topic) (key : String) : Prop :=
  (f.perform (.ask now p key)).cache.asked = f.cache.asked + 1

/-! ### One move -/

/-- The answer to a question comes from what is kept for its topic. -/
theorem ask_eq (f : Front) (now : Nat) (p : Topic) (key : String) :
    let r := SourceCache.answer (f.cache.kept p) (f.cache.expiry p) now key (said f.source p key)
    f.answer now p key = r.1 ∧ (f.Fetches now p key ↔ r.2.1 = true) ∧
      (f.perform (.ask now p key)).cache.kept p = r.2.2 := by
  cases p with
  | user => exact ⟨rfl, count_eq_succ_iff, rfl⟩
  | hierarchy => exact ⟨rfl, count_eq_succ_iff, rfl⟩

theorem kept_ask_of_ne (f : Front) (now : Nat) (key : String) (h : p' ≠ p) :
    (f.perform (.ask now p key)).cache.kept p' = f.cache.kept p' := by
  cases p <;> cases p' <;> first | exact absurd rfl h | rfl

/-- **What a question does.** Either an answer serves that is kept for it, and is marked then; or
none does, and the source is asked and its answer kept. -/
theorem ask_cases (f : Front) (now : Nat) (p : Topic) (key : String) :
    (∃ d, (f.cache.kept p).find? key = some d ∧ now - d.time < f.cache.expiry p ∧
      f.answer now p key = d.value ∧ ¬ f.Fetches now p key ∧
      (f.perform (.ask now p key)).cache.kept p = ((f.cache.kept p).get key).2) ∨
    ((∀ d, (f.cache.kept p).find? key = some d → ¬ now - d.time < f.cache.expiry p) ∧
      f.answer now p key = said f.source p key ∧ f.Fetches now p key ∧
      (f.perform (.ask now p key)).cache.kept p
        = ((f.cache.kept p).get key).2.insert key ⟨now, said f.source p key⟩) := by
  obtain ⟨hanswer, hfetches, hkept⟩ := f.ask_eq now p key
  by_cases hserves : ∃ d, (f.cache.kept p).find? key = some d ∧ now - d.time < f.cache.expiry p
  · obtain ⟨d, hd, hfresh⟩ := hserves
    rw [answer_of_fresh hd hfresh] at hanswer hfetches hkept
    exact .inl ⟨d, hd, hfresh, hanswer, by simp [hfetches], hkept⟩
  · have hnone : ∀ d, (f.cache.kept p).find? key = some d → ¬ now - d.time < f.cache.expiry p :=
      fun d hd hfresh => hserves ⟨d, hd, hfresh⟩
    rw [answer_of_not_fresh hnone] at hanswer hfetches hkept
    exact .inr ⟨hnone, hanswer, hfetches.2 rfl, hkept⟩

theorem kept_invalidate (f : Front) (p : Topic) :
    (f.perform .invalidate).cache.kept p = (f.cache.kept p).clear := by
  cases p <;> rfl

theorem expiry_perform (f : Front) (m : Move) (p : Topic) :
    (f.perform m).cache.expiry p = f.cache.expiry p := by
  cases m with
  | ask now p' key => cases p' <;> cases p <;> rfl
  | change source => rfl
  | invalidate => cases p <;> rfl

theorem capacity_perform (f : Front) (m : Move) (p : Topic) :
    ((f.perform m).cache.kept p).capacity = (f.cache.kept p).capacity := by
  cases m with
  | ask now p' key =>
    by_cases hp : p = p'
    · subst hp
      obtain ⟨d, -, -, -, -, hkept⟩ | ⟨-, -, -, hkept⟩ := f.ask_cases now p key
      · rw [hkept, BoundedCache.capacity_get]
      · rw [hkept, BoundedCache.capacity_insert, BoundedCache.capacity_get]
    · rw [kept_ask_of_ne f now key hp]
  | change source => rfl
  | invalidate => rw [kept_invalidate]; rfl

/-! ### The last fetch -/

/-- `f.IsLastFetch p key moves d`: among some moves that begin with `f`, the last time when the
source was asked for a question is that of `d`, it said what `d` says, and the cache was not emptied
since then. -/
inductive IsLastFetch (f : Front) (p : Topic) (key : String) : List Move → Dated p.Answer → Prop
  /-- The source is asked now. -/
  | fetched {moves : List Move} {now : Nat} (h : (f.after moves).Fetches now p key) :
    f.IsLastFetch p key (moves ++ [.ask now p key]) ⟨now, said (f.after moves).source p key⟩
  /-- The source was asked before. -/
  | later {moves : List Move} {d : Dated p.Answer} (h : f.IsLastFetch p key moves d) {m : Move}
    (hkept : m ≠ .invalidate)
    (hserved : ∀ now, m = .ask now p key → ¬ (f.after moves).Fetches now p key) :
    f.IsLastFetch p key (moves ++ [m]) d

/-- **What is kept was fetched last**, and without capacity nothing is kept. -/
theorem isLastFetch_kept (hempty : ∀ p, (f.cache.kept p).keys = []) (moves : List Move)
    (p : Topic) :
    ((f.after moves).cache.kept p).Throughout (fun key d => f.IsLastFetch p key moves d) ∧
      (((f.after moves).cache.kept p).capacity = 0 → ((f.after moves).cache.kept p).keys = []) := by
  induction moves using List.reverseRecOn generalizing p with
  | nil =>
    have hslots : (f.cache.kept p).slots = [] := List.map_eq_nil_iff.1 (hempty p)
    exact ⟨BoundedCache.throughout_of_slots_eq_nil hslots, fun _ => hempty p⟩
  | append_singleton moves m ih =>
    obtain ⟨hlast, hdisabled⟩ := ih p
    rw [after_concat]
    cases m with
    | change source => exact ⟨fun s hs => (hlast s hs).later nofun nofun, hdisabled⟩
    | invalidate =>
      rw [kept_invalidate]
      exact ⟨BoundedCache.throughout_clear, fun _ => BoundedCache.keys_clear _⟩
    | ask now p' key =>
      by_cases hp : p = p'
      · subst hp
        obtain ⟨d, -, -, -, hserved, hkept⟩ | ⟨-, -, hfetches, hkept⟩ :=
          (f.after moves).ask_cases now p key
        · have hlater : ((f.after moves).cache.kept p).Throughout
              fun key' d => f.IsLastFetch p key' (moves ++ [.ask now p key]) d := fun s hs => by
            refine (hlast s hs).later nofun fun now' heq => ?_
            cases heq
            exact hserved
          rw [hkept]
          refine ⟨hlater.get key, ?_⟩
          rwa [BoundedCache.capacity_get, BoundedCache.keys_get]
        · rw [hkept]
          refine ⟨(hlast.get key).insert_of (fun hzero => ?_) (fun key' d hne h => ?_)
            (.fetched hfetches), fun hzero => ?_⟩
          · rw [BoundedCache.capacity_get] at hzero
            have hnil : (((f.after moves).cache.kept p).get key).2.keys = [] :=
              (BoundedCache.keys_get _ key).trans (hdisabled hzero)
            exact BoundedCache.throughout_of_slots_eq_nil (List.map_eq_nil_iff.1 hnil)
          · refine h.later nofun fun now' heq => ?_
            cases heq
            exact absurd rfl hne
          · rw [BoundedCache.capacity_insert, BoundedCache.capacity_get] at hzero
            rw [BoundedCache.insert_of_capacity_eq_zero
              ((BoundedCache.capacity_get _ key).trans hzero), BoundedCache.keys_get]
            exact hdisabled hzero
      · rw [kept_ask_of_ne _ now key hp]
        refine ⟨fun s hs => (hlast s hs).later nofun fun now' heq => ?_, hdisabled⟩
        cases heq
        exact absurd rfl hp

/-! ### Since the cache was emptied -/

/-- Whether nothing is kept after some moves: there are none, or the last one empties the cache. -/
def Empties (moves : List Move) : Prop := ∀ m ∈ moves.getLast?, m = .invalidate

theorem eq_of_concat_eq_append {m : Move} (h : moves ++ [m] = early ++ late)
    (hempties : Empties early)
    (hm : m ≠ .invalidate) : ∃ late', late = late' ++ [m] ∧ moves = early ++ late' := by
  rcases List.eq_nil_or_concat late with rfl | ⟨late', m', rfl⟩
  · rw [List.append_nil] at h
    exact absurd (hempties m (by rw [← h]; simp)) hm
  · rw [List.concat_eq_append, ← List.append_assoc] at h
    obtain ⟨hmoves, heq⟩ := List.append_inj' h rfl
    obtain rfl := List.singleton_inj.1 heq
    exact ⟨late', List.concat_eq_append, hmoves⟩

/-- The last fetch is among the moves since the cache was emptied. -/
theorem IsLastFetch.exists_since {d : Dated p.Answer} (h : f.IsLastFetch p key moves d)
    (hmoves : moves = early ++ late) (hempties : Empties early) :
    ∃ before later, late = before ++ .ask d.time p key :: later ∧
      d.value = said (f.after (early ++ before)).source p key := by
  induction h generalizing late with
  | fetched h =>
    obtain ⟨late', rfl, rfl⟩ := eq_of_concat_eq_append hmoves hempties nofun
    exact ⟨late', [], rfl, rfl⟩
  | @later moves d h m hkept hserved ih =>
    obtain ⟨late', rfl, rfl⟩ := eq_of_concat_eq_append hmoves hempties hkept
    obtain ⟨before, later, rfl, hvalue⟩ := ih rfl
    exact ⟨before, later ++ [m], by simp, hvalue⟩

theorem source_after (hsteady : ∀ source, .change source ∉ moves) :
    (f.after moves).source = f.source := by
  induction moves using List.reverseRecOn with
  | nil => rfl
  | append_singleton moves m ih =>
    rw [after_concat]
    have hbefore := ih fun source hmem => hsteady source (List.mem_append_left _ hmem)
    cases m with
    | ask now p key => exact hbefore
    | change source => exact absurd (by simp) (hsteady source)
    | invalidate => exact hbefore

theorem capacity_after (f : Front) (moves : List Move) (p : Topic) :
    ((f.after moves).cache.kept p).capacity = (f.cache.kept p).capacity := by
  induction moves using List.reverseRecOn with
  | nil => rfl
  | append_singleton moves m ih => rw [after_concat, capacity_perform, ih]

theorem expiry_after (f : Front) (moves : List Move) (p : Topic) :
    (f.after moves).cache.expiry p = f.cache.expiry p := by
  induction moves using List.reverseRecOn with
  | nil => rfl
  | append_singleton moves m ih => rw [after_concat, expiry_perform, ih]

theorem keys_after_of_empties (hempty : ∀ p, (f.cache.kept p).keys = []) (h : Empties moves)
    (p : Topic) : ((f.after moves).cache.kept p).keys = [] := by
  rcases List.eq_nil_or_concat moves with rfl | ⟨moves, m, rfl⟩
  · exact hempty p
  · obtain rfl : m = .invalidate := h m (by simp)
    rw [List.concat_eq_append, after_concat, kept_invalidate, BoundedCache.keys_clear]

/-- What is asked for in questions of a topic, in order. -/
def keysAsked (p : Topic) (moves : List Move) : List String := moves.filterMap (Move.key? p)

theorem keysAsked_concat (p : Topic) (moves : List Move) (m : Move) :
    keysAsked p (moves ++ [m]) = keysAsked p moves ++ (m.key? p).toList := by
  rw [keysAsked, List.filterMap_append, keysAsked]
  cases hm : m.key? p <;> simp [hm]

theorem mem_keysAsked : key ∈ keysAsked p moves ↔ ∃ now, .ask now p key ∈ moves := by
  simp only [keysAsked, List.mem_filterMap]
  constructor
  · rintro ⟨m, hm, hkey⟩
    cases m with
    | ask now p' key' =>
      obtain ⟨rfl, ⟨⟩⟩ := Option.ite_none_right_eq_some.1 hkey
      exact ⟨now, hm⟩
    | change source => cases hkey
    | invalidate => cases hkey
  · rintro ⟨now, hm⟩
    exact ⟨_, hm, if_pos rfl⟩

/-- **While there is room** for all that is asked for, all of it is kept. -/
theorem keys_after (hempty : (f.cache.kept p).keys = []) (hkeeps : .invalidate ∉ moves)
    (hroom : (keysAsked p moves).eraseDups.length ≤ (f.cache.kept p).capacity) :
    ((f.after moves).cache.kept p).keys = (keysAsked p moves).eraseDups := by
  induction moves using List.reverseRecOn with
  | nil => exact hempty
  | append_singleton moves m ih =>
    rw [keysAsked_concat] at hroom
    have hkeys := ih (fun hmem => hkeeps (List.mem_append_left _ hmem))
      (Nat.le_trans (length_eraseDups_le_of_subset (List.subset_append_left _ _)) hroom)
    rw [after_concat, keysAsked_concat]
    cases m with
    | invalidate => exact absurd (by simp) hkeeps
    | change source =>
      rw [show (Move.change source).key? p = none from rfl, Option.toList_none, List.append_nil]
      exact hkeys
    | ask now p' key =>
      by_cases hp : p' = p
      · subst hp
        have hkey : (Move.ask now p' key).key? p' = some key := if_pos rfl
        rw [hkey, Option.toList_some] at hroom ⊢
        obtain ⟨d, hd, -, -, -, hkept⟩ | ⟨-, -, -, hkept⟩ := (f.after moves).ask_cases now p' key
        · have hmem : key ∈ keysAsked p' moves := by
            rw [← List.mem_eraseDups, ← hkeys]
            exact BoundedCache.mem_keys_of_find? hd
          rw [hkept, BoundedCache.keys_get, hkeys, eraseDups_concat_of_mem hmem]
        · rw [hkept]
          refine BoundedCache.keys_insert ((BoundedCache.keys_get _ key).trans hkeys) ?_ _
          rwa [BoundedCache.capacity_get, capacity_after]
      · have hkey : (Move.ask now p' key).key? p = none := if_neg hp
        rw [hkey, Option.toList_none, List.append_nil, kept_ask_of_ne _ now key (Ne.symm hp)]
        exact hkeys

/-! ### The answers -/

/-- For an answer that is kept and serves, the source is not asked. -/
theorem not_fetches_of_find? {d : Dated p.Answer} (hd : (f.cache.kept p).find? key = some d)
    (hfresh : now - d.time < f.cache.expiry p) : ¬ f.Fetches now p key := by
  obtain ⟨-, -, -, -, hserved, -⟩ | ⟨hnone, -⟩ := f.ask_cases now p key
  · exact hserved
  · exact absurd hfresh (hnone d hd)

/-- A question is answered from its last fetch, whether that is now or was before, and the answer is
kept then if anything can be kept. -/
theorem exists_isLastFetch (hempty : ∀ p, (f.cache.kept p).keys = []) (moves : List Move)
    (now : Nat) (p : Topic) (key : String) :
    ∃ d, f.IsLastFetch p key (moves ++ [.ask now p key]) d ∧
      (f.after moves).answer now p key = d.value ∧
      (now - d.time < f.cache.expiry p ∨ (f.after moves).Fetches now p key) ∧
      ((f.cache.kept p).capacity ≠ 0 →
        ((f.after (moves ++ [.ask now p key])).cache.kept p).find? key = some d) := by
  obtain ⟨hlast, -⟩ := isLastFetch_kept hempty moves p
  rw [after_concat, ← expiry_after f moves p]
  obtain ⟨d, hd, hfresh, hanswer, hserved, hkept⟩ | ⟨-, hanswer, hfetches, hkept⟩ :=
    (f.after moves).ask_cases now p key
  · refine ⟨d, (hlast.of_find? hd).later nofun fun now' heq => ?_, hanswer, .inl hfresh,
      fun _ => ?_⟩
    · cases heq
      exact hserved
    · rw [hkept, BoundedCache.find?_get, hd]
  · refine ⟨_, .fetched hfetches, hanswer, .inr hfetches, fun hcapacity => ?_⟩
    rw [hkept]
    refine BoundedCache.find?_insert ?_ _
    rwa [BoundedCache.capacity_get, capacity_after]

/-- If the source has not changed since nothing was kept, it would give the answer now. -/
theorem answer_of_steady (hempty : ∀ p, (f.cache.kept p).keys = []) (hempties : Empties early)
    (hsteady : ∀ source, .change source ∉ late) (now : Nat) (p : Topic) (key : String) :
    (f.after (early ++ late)).answer now p key = said (f.after (early ++ late)).source p key := by
  obtain ⟨d, hlast, hanswer, -⟩ := exists_isLastFetch hempty (early ++ late) now p key
  obtain ⟨before, later, hlate, hvalue⟩ :=
    hlast.exists_since (List.append_assoc early late _) hempties
  have hbefore : ∀ source, .change source ∉ before := fun source hmem => by
    have hmem' : .change source ∈ late ++ [Move.ask now p key] := by
      rw [hlate]
      exact List.mem_append_left _ hmem
    rcases List.mem_append.1 hmem' with hmem' | hmem'
    · exact hsteady source hmem'
    · cases List.mem_singleton.1 hmem'
  rw [hanswer, hvalue, after_append, after_append, source_after hbefore, source_after hsteady]

/-- As long as there is room for all questions and no answer runs out, no question is fetched
twice. -/
theorem not_fetches_of_room (hempty : ∀ p, (f.cache.kept p).keys = []) (hempties : Empties early)
    (hkeeps : .invalidate ∉ late)
    (hroom : (keysAsked p late).eraseDups.length ≤ (f.cache.kept p).capacity)
    (hasked : ∃ t, .ask t p key ∈ late)
    (hfresh : ∀ t, .ask t p key ∈ late → now - t < f.cache.expiry p) :
    ¬ (f.after (early ++ late)).Fetches now p key := by
  have hkeys : ((f.after (early ++ late)).cache.kept p).keys = (keysAsked p late).eraseDups := by
    rw [after_append]
    refine keys_after (keys_after_of_empties hempty hempties p) hkeeps ?_
    rwa [capacity_after]
  have hmem : key ∈ ((f.after (early ++ late)).cache.kept p).keys := by
    rw [hkeys, List.mem_eraseDups]
    exact mem_keysAsked.2 hasked
  obtain ⟨d, hd⟩ := BoundedCache.exists_find?_of_mem hmem
  obtain ⟨hlast, -⟩ := isLastFetch_kept hempty (early ++ late) p
  obtain ⟨before, later, rfl, -⟩ := (hlast.of_find? hd).exists_since rfl hempties
  refine not_fetches_of_find? hd ?_
  rw [expiry_after]
  exact hfresh d.time (by simp)

/-- **Answers come from the last fetches.** After any moves, a question is answered with what the
source said when the question was fetched the last time, which was since the cache was emptied;
unless that is now, the answer has not run out. If anything can be kept, the answer is kept, also if
it is that a user or a hierarchy is not known: when the question is asked right after, it is not
fetched as long as the answer has not run out. If answers run out at once, the answer is what the
source says now. So it is if the source has not changed since the cache was emptied. And if since
then there has been room for all questions of the topic, a question that was asked is not fetched
again as long as it was never asked too long ago. -/
theorem answers_come_from_last_fetches (source : Source)
    (users hierarchies userExpiry hierarchyExpiry : Nat) (moves : List Move) (now : Nat) (p : Topic)
    (key : String) :
    let new := start source users hierarchies userExpiry hierarchyExpiry
    let f := new.after moves
    (∃ d, new.IsLastFetch p key (moves ++ [.ask now p key]) d ∧ f.answer now p key = d.value ∧
      (now - d.time < new.cache.expiry p ∨ f.Fetches now p key) ∧
      ((new.cache.kept p).capacity ≠ 0 → ∀ later, later - d.time < new.cache.expiry p →
        ¬ (f.perform (.ask now p key)).Fetches later p key)) ∧
    (new.cache.expiry p = 0 → f.answer now p key = said f.source p key) ∧
    ∀ early late, moves = early ++ late → Empties early →
      ((∀ source, .change source ∉ late) → f.answer now p key = said f.source p key) ∧
      (.invalidate ∉ late → (keysAsked p late).eraseDups.length ≤ (new.cache.kept p).capacity →
        (∃ t, .ask t p key ∈ late) → (∀ t, .ask t p key ∈ late → now - t < new.cache.expiry p) →
        ¬ f.Fetches now p key) := by
  intro new f
  have hempty : ∀ p, (new.cache.kept p).keys = [] := fun p => by cases p <;> rfl
  refine ⟨?_, fun hzero => ?_, ?_⟩
  · obtain ⟨d, hlast, hanswer, hfresh, hkept⟩ := exists_isLastFetch hempty moves now p key
    refine ⟨d, hlast, hanswer, hfresh, fun hcapacity later hlater => ?_⟩
    rw [← after_concat]
    refine not_fetches_of_find? (hkept hcapacity) ?_
    rwa [expiry_after]
  · obtain ⟨d, -, hfresh, -⟩ | ⟨-, hanswer, -⟩ := f.ask_cases now p key
    · rw [expiry_after, hzero] at hfresh
      exact absurd hfresh (Nat.not_lt_zero _)
    · exact hanswer
  · rintro early late rfl hempties
    exact ⟨fun hsteady => answer_of_steady hempty hempties hsteady now p key,
      not_fetches_of_room hempty hempties⟩

/-- That a user is not known is kept when the source gets to know the user, until the cache is
emptied. -/
theorem answers_come_from_last_fetches_unknown :
    let new := start ⟨fun _ => none, fun _ => none, []⟩ 50 5 300 300
    let moves : List Move :=
      [.ask 0 .user "eve", .change ⟨fun _ => some AttributeSet.empty, fun _ => none, ["eve"]⟩]
    (new.after moves).answer 5 .user "eve" = none ∧ ¬ (new.after moves).Fetches 5 .user "eve" ∧
      (new.after (moves ++ [.invalidate])).answer 5 .user "eve" = some AttributeSet.empty := by
  intro new moves
  obtain ⟨-, -, hsince⟩ :=
    answers_come_from_last_fetches ⟨fun _ => none, fun _ => none, []⟩ 50 5 300 300
    moves 5 .user "eve"
  obtain ⟨-, -, hemptied⟩ :=
    answers_come_from_last_fetches ⟨fun _ => none, fun _ => none, []⟩ 50 5 300 300
    (moves ++ [.invalidate]) 5 .user "eve"
  refine ⟨rfl, (hsince [] moves rfl nofun).2 ?_ (by decide) ⟨0, ?_⟩ ?_, ?_⟩
  · simp [moves]
  · simp [moves]
  · intro t ht
    have hzero : t = 0 := by simpa [moves] using ht
    rw [hzero]
    decide
  · exact (hemptied (moves ++ [.invalidate]) [] (by simp) (by simp [Empties])).1 (by simp)

end Front
end Clearance.SourceCache
