import Clearance.Expr.Eval
import Clearance.Proofs.Grammar.Stalling

/-!
# The meaning of printed expressions

A printed expression may come back as another one: chains come back grouped to the left,
disjunctions under a conjunction come back in brackets. Both connectives evaluate their operands
from left to right and stop at the first operand that decides them; so the grouping changes neither
the answer nor the questions to the requester, and brackets do not either. Only a text that spells a
truth value comes back as another constant.

## Main definitions

* `Clearance.Expr.NoFlagTexts` — expressions in which no text spells a truth value.

## Main results

* `Clearance.Expr.evaluate_reread` — evaluation, in whatever way the requester answers.
* `Clearance.Expr.chars_reread` — the printed form.
* `Clearance.Grammar.printing_keeps_the_meaning`.
-/

namespace Clearance

open Grammar

namespace Expr

variable {e f : Expr}

/-- Whether no text that an expression compares with spells a truth value, in capital or small
letters. -/
def NoFlagTexts (e : Expr) : Prop := e.EveryAtom fun _ tail =>
  ∀ op s, tail = some (op, .text s) → ∀ b, lowered s.toList ≠ flagChars b

/-! ### Evaluation -/

section Evaluation

variable {m : Type → Type} [Monad m] {r : Requester m} {k : Connective}

theorem evaluate_join_congr {e' f' : Expr} (he : e.evaluate r = e'.evaluate r)
    (hf : f.evaluate r = f'.evaluate r) : (k.join e f).evaluate r = (k.join e' f').evaluate r := by
  cases k with
  | and =>
    show (evaluate r e >>= fun b => if b then evaluate r f else pure false) = _
    rw [he, hf]
    rfl
  | or =>
    show (evaluate r e >>= fun b => if b then pure true else evaluate r f) = _
    rw [he, hf]
    rfl

theorem evaluate_asOperand (b : Bool) : (asOperand b e).evaluate r = e.evaluate r := by
  cases b <;> rfl

variable [LawfulMonad m]

/-- **Both connectives are associative**, with the questions that are asked. -/
theorem evaluate_join_assoc (k : Connective) (e f g : Expr) :
    (k.join (k.join e f) g).evaluate r = (k.join e (k.join f g)).evaluate r := by
  cases k with
  | and =>
    show ((evaluate r e >>= fun b => if b then evaluate r f else pure false) >>=
        fun b => if b then evaluate r g else pure false) =
      evaluate r e >>= fun b =>
        if b then (evaluate r f >>= fun b => if b then evaluate r g else pure false) else pure false
    rw [bind_assoc]
    refine bind_congr fun b => ?_
    cases b with
    | true => rfl
    | false => exact pure_bind false _
  | or =>
    show ((evaluate r e >>= fun b => if b then pure true else evaluate r f) >>=
        fun b => if b then pure true else evaluate r g) =
      evaluate r e >>= fun b =>
        if b then pure true else (evaluate r f >>= fun b => if b then pure true else evaluate r g)
    rw [bind_assoc]
    refine bind_congr fun b => ?_
    cases b with
    | true => exact pure_bind true _
    | false => rfl

theorem evaluate_regroup (k : Connective) (e f : Expr) :
    (k.regroup e f).evaluate r = (k.join e f).evaluate r := by
  fun_induction Connective.regroup k e f with
  | case1 e f g ih =>
    calc (Connective.and.join (Connective.and.regroup e f) g).evaluate r
      _ = (Connective.and.join (.and e f) g).evaluate r := evaluate_join_congr ih rfl
      _ = _ := evaluate_join_assoc .and e f g
  | case2 e f g ih =>
    calc (Connective.or.join (Connective.or.regroup e f) g).evaluate r
      _ = (Connective.or.join (.or e f) g).evaluate r := evaluate_join_congr ih rfl
      _ = _ := evaluate_join_assoc .or e f g
  | case3 => rfl

/-- **What comes back is evaluated alike**, in whatever way the requester answers: to the same
answer or the same error, after the same questions in the same order. -/
theorem evaluate_reread : ∀ {e : Expr}, e.NoFlagTexts → e.reread.evaluate r = e.evaluate r
  | .allow, _ => rfl
  | .deny, _ => rfl
  | .holds _, _ => rfl
  | .relation a op v, h => by
    rw [reread, reread_eq_self fun s hs => h op s (hs ▸ rfl)]
  | .and e f, h => by
    have hoperands : (Expr.and (asOperand e.isOr e.reread) (asOperand f.isOr f.reread)).evaluate r =
        (Expr.and e f).evaluate r :=
      evaluate_join_congr (k := .and) ((evaluate_asOperand _).trans (evaluate_reread h.1))
        ((evaluate_asOperand _).trans (evaluate_reread h.2))
    exact (evaluate_regroup .and _ _).trans hoperands
  | .or e f, h => by
    have hoperands : (Expr.or e.reread f.reread).evaluate r = (Expr.or e f).evaluate r :=
      evaluate_join_congr (k := .or) (evaluate_reread h.1) (evaluate_reread h.2)
    exact (evaluate_regroup .or _ _).trans hoperands
  | .bracket e, h => evaluate_reread (e := e) h

end Evaluation

/-! ### The printed form -/

theorem isOr_regroup (k : Connective) (e f : Expr) : (k.regroup e f).isOr = (k.join e f).isOr := by
  cases k <;> cases f <;> rfl

theorem isOr_reread (e : Expr) : e.reread.isOr = e.isOr := by
  cases e with
  | and e f => exact isOr_regroup .and _ _
  | or e f => exact isOr_regroup .or _ _
  | _ => rfl

/-- The grouping of a chain cannot be seen in print. -/
theorem chars_regroup (k : Connective) (e f : Expr) :
    (k.regroup e f).chars = (k.join e f).chars := by
  fun_induction Connective.regroup k e f with
  | case1 e f g ih =>
    have hor : (Connective.and.regroup e f).isOr = false := isOr_regroup .and e f
    have hsame : operandChars (Connective.and.regroup e f).isOr (Connective.and.regroup e f).chars =
        (Expr.and e f).chars := by
      rw [hor]
      exact ih
    rw [Expr.chars, hsame]
    simp only [Connective.join, Expr.chars, Expr.isOr, operandChars, Bool.false_eq_true, if_false,
      List.append_assoc]
  | case2 e f g ih =>
    have hsame : (Connective.or.regroup e f).chars = (Expr.or e f).chars := ih
    rw [Expr.chars, hsame]
    simp only [Connective.join, Expr.chars, List.append_assoc]
  | case3 => rfl

/-- Added brackets come back as they were printed. -/
theorem operandChars_asOperand (h : e.chars = f.chars) (hor : e.isOr = f.isOr) :
    operandChars (asOperand f.isOr e).isOr (asOperand f.isOr e).chars =
      operandChars f.isOr f.chars := by
  cases hf : f.isOr with
  | true => exact congrArg (fun s => '(' :: (s ++ [')'])) h
  | false =>
    rw [hf] at hor
    show operandChars e.isOr e.chars = _
    rw [hor, h]

theorem chars_reread : ∀ {e : Expr}, e.NoFlagTexts → e.reread.chars = e.chars
  | .allow, _ => rfl
  | .deny, _ => rfl
  | .holds _, _ => rfl
  | .relation a op v, h => by
    rw [reread, reread_eq_self fun s hs => h op s (hs ▸ rfl)]
  | .and e f, h => by
    have he := operandChars_asOperand (chars_reread h.1) (isOr_reread e)
    have hf := operandChars_asOperand (chars_reread h.2) (isOr_reread f)
    rw [reread, chars_regroup, Connective.join, Expr.chars, he, hf, ← Expr.chars]
  | .or e f, h => by
    rw [reread, chars_regroup, Connective.join, Expr.chars, chars_reread h.1, chars_reread h.2,
      ← Expr.chars]
  | .bracket e, h => congrArg (fun s => '(' :: (s ++ [')'])) (chars_reread (e := e) h)

end Expr

namespace Grammar

/-- **Printing keeps the meaning.** A printed expression is read unless an attribute in it is named
like a truth value, or one of the two that always allow or always deny is a part of it. What it is
read as is printed alike, and is evaluated alike against every requester, in whatever way the
requester answers, if no text in it spells a truth value. -/
theorem printing_keeps_the_meaning (e : Expr) :
    ((∃ e', Expr.parse e.chars = .ok e') ↔
      e.Named ∧ (e.hasVerdict = true → e = .allow ∨ e = .deny)) ∧
    ∀ e', Expr.parse e.chars = .ok e' → e.NoFlagTexts → e'.chars = e.chars ∧
      ∀ (m : Type → Type) [Monad m] [LawfulMonad m] (r : Requester m),
        e'.evaluate r = e.evaluate r := by
  constructor
  · rw [exists_parse_chars_iff]
    constructor
    · rintro (⟨hnamed, hnone⟩ | rfl | rfl)
      · exact ⟨hnamed, fun h => absurd (hnone.symm.trans h) Bool.false_ne_true⟩
      · exact ⟨trivial, fun _ => .inl rfl⟩
      · exact ⟨trivial, fun _ => .inr rfl⟩
    · rintro ⟨hnamed, hverdict⟩
      cases hhas : e.hasVerdict with
      | true => exact .inr (hverdict hhas)
      | false => exact .inl ⟨hnamed, hhas⟩
  · intro e' hparse hconstants
    have hreread : e' = e.reread := by
      rw [parse_chars (exists_parse_chars_iff.1 ⟨e', hparse⟩)] at hparse
      exact (Except.ok.inj hparse).symm
    subst hreread
    exact ⟨Expr.chars_reread hconstants, fun m _ _ r => Expr.evaluate_reread hconstants⟩

/-- A conjunction that is grouped to the right, with a disjunction in it: it comes back as another
expression, and a requester who writes down the questions gets the same ones. -/
theorem printing_keeps_the_meaning_regrouped :
    let e : Expr := .and (.holds "a")
      (.and (.or (.relation "b" .eq (.text "x y")) (.relation "c" .lt (.text "7"))) (.holds "d"))
    let e' : Expr := .and (.and (.holds "a")
      (.bracket (.or (.relation "b" .eq (.text "x y")) (.relation "c" .lt (.text "7")))))
      (.holds "d")
    let r : Requester (StateM (List Query)) :=
      .traced (fun a => if a = "a" then [.flag true] else []) fun _ => none
    Expr.parse e.chars = .ok e' ∧ e ≠ e' ∧ e'.chars = e.chars ∧
      (e'.evaluate r).run.run [] = (e.evaluate r).run.run [] ∧
      (e.evaluate r).run.run [] =
        (.error (.unsupported (.ordering "c" .lt (.text "7"))), [.values "a", .values "b"]) := by
  intro e e' r
  have hparse : Expr.parse e.chars = .ok e' := rfl
  have hconstants : e.NoFlagTexts := by
    refine ⟨nofun, ⟨?_, ?_⟩, nofun⟩ <;>
      · intro op s h b
        cases h
        cases b <;> decide
  obtain ⟨hchars, hevaluate⟩ := (printing_keeps_the_meaning e).2 e' hparse hconstants
  exact ⟨hparse, by decide, hchars, by rw [hevaluate], rfl⟩

end Grammar

end Clearance
