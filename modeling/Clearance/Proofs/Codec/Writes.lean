import Clearance.Codec.Basic
import Clearance.Proofs.Keeping

/-!
# What encoders write

An encoder *writes* certain bytes when it appends them to every buffer that has room for them, and
otherwise fails with an overflow after a part of them. Encoders that write one after the other write
their bytes one after the other.

## Main definitions

* `Clearance.EncodeM.Wrote` — the ways in which writing may end.
* `Clearance.EncodeM.Writes` — encoders that write certain bytes.
* `Clearance.EncodeM.Appends` — encoders that have written certain bytes once.

## Main results

* `Clearance.EncodeM.Writes.bind` — encoders one after the other.
* `Clearance.EncodeM.Writes.eq_of_appends`, `Clearance.EncodeM.Writes.appends_iff` — what is written
  once is always written.
* `Clearance.EncodeM.writes_put`, `Clearance.EncodeM.writes_putAll`, `Clearance.EncodeM.writes_forM`
  — the encoders of which others are made.
-/

namespace Clearance.EncodeM

variable {τ α β : Type} {E E' : Error → Prop} {t t' t'' : τ} {a : α} {c : β} {bs bs' : Bytes}

/-- How writing `bs` to a buffer ends, if it answers `a` and leaves the table `t'`: the bytes fit;
there is no room for all of them; or one of certain errors keeps them from being written. -/
inductive Wrote (E : Error → Prop) (b : Scratch) (a : α) (bs : Bytes) (t' : τ) :
    Except Error α × Sheet τ → Prop where
  /-- The bytes fit. -/
  | fits (h : b.bytes.length + bs.length ≤ b.capacity) :
    Wrote E b a bs t' (.ok a, ⟨{ b with bytes := b.bytes ++ bs }, t'⟩)
  /-- There is room for a part of the bytes only. -/
  | overflows {needed : Nat} {part rest : Bytes} {last : τ} (hbs : bs = part ++ rest)
    (hpart : b.bytes.length + part.length ≤ b.capacity) (hneeded : b.capacity < needed)
    (hle : needed ≤ b.bytes.length + bs.length) :
    Wrote E b a bs t'
      (.error (.overflow needed b.capacity), ⟨{ b with bytes := b.bytes ++ part }, last⟩)
  /-- An error keeps the bytes from being written. -/
  | refused {e : Error} {sheet : Sheet τ} (he : E e) : Wrote E b a bs t' (.error e, sheet)

/-- An encoder that writes `bs` when it begins with the table `t`; it then answers `a` and leaves
the table `t'`. -/
def Writes (E : Error → Prop) (x : EncodeM τ α) (t : τ) (a : α) (bs : Bytes) (t' : τ) : Prop :=
  ∀ b : Scratch, b.bytes.length ≤ b.capacity → Wrote E b a bs t' (x.run.run ⟨b, t⟩)

/-- An encoder that has once, on some buffer, begun with the table `t` and succeeded with the answer
`a`; it appended `bs` to what the buffer held and left the table `t'`. -/
def Appends (x : EncodeM τ α) (t : τ) (a : α) (bs : Bytes) (t' : τ) : Prop :=
  ∃ b : Scratch, b.bytes.length ≤ b.capacity ∧
    x.run.run ⟨b, t⟩ = (.ok a, ⟨{ b with bytes := b.bytes ++ bs }, t'⟩)

theorem writes_pure (a : α) (t : τ) : Writes E (pure a) t a [] t := by
  intro b hb
  have hfits : Wrote E b a [] t (.ok a, ⟨{ b with bytes := b.bytes ++ [] }, t⟩) :=
    .fits (by simpa using hb)
  rwa [List.append_nil] at hfits

theorem writes_put (bs : Bytes) (t : τ) : Writes E (put bs) t () bs t := by
  intro b hb
  unfold put
  rw [run_get_bind, Scratch.put]
  by_cases h : b.bytes.length + bs.length ≤ b.capacity
  · rw [if_pos h]
    exact .fits h
  · have hoverflow : Wrote E b () bs t (.error (.overflow (b.bytes.length + bs.length) b.capacity),
        ⟨{ b with bytes := b.bytes ++ [] }, t⟩) :=
      .overflows rfl (by simpa using hb) (Nat.lt_of_not_le h) (Nat.le_refl _)
    rw [if_neg h]
    rwa [List.append_nil] at hoverflow

/-- Writing bytes leaves the table as it is. -/
theorem keeps_put (t : τ) (bs : Bytes) :
    Keeps (fun sheet : Sheet τ => sheet.table = t) (put bs) fun _ => True := by
  refine keeps_get_bind fun sheet hsheet => ?_
  cases sheet.buffer.put bs with
  | ok buffer => exact fun _ _ => ⟨hsheet, fun _ _ => trivial⟩
  | error e => exact keeps_throw e

theorem Wrote.eq_of_ok {b : Scratch} {a' : α} {sheet : Sheet τ}
    (h : Wrote E b a bs t' (.ok a', sheet)) :
    a' = a ∧ sheet = ⟨{ b with bytes := b.bytes ++ bs }, t'⟩ := by
  cases h with
  | fits => exact ⟨rfl, rfl⟩

namespace Writes

theorem mono {x : EncodeM τ α} (hx : Writes E x t a bs t') (hE : ∀ e, E e → E' e) :
    Writes E' x t a bs t' := by
  intro b hb
  rcases h : x.run.run ⟨b, t⟩ with ⟨r, sheet⟩
  have hx := hx b hb
  rw [h] at hx
  cases hx with
  | fits hfits => exact .fits hfits
  | overflows hbs hpart hneeded hle => exact .overflows hbs hpart hneeded hle
  | refused he => exact .refused (hE _ he)

/-- An encoder that writes certain bytes never appends others. -/
theorem eq_of_appends {x : EncodeM τ α} {a' : α} (hx : Writes E x t a bs t')
    (h : Appends x t a' bs' t'') : a' = a ∧ bs' = bs ∧ t'' = t' := by
  obtain ⟨b, hb, hrun⟩ := h
  obtain ⟨ha, hsheet⟩ := (hrun ▸ hx b hb).eq_of_ok
  obtain ⟨hbuffer, htable⟩ := Sheet.mk.inj hsheet
  exact ⟨ha, List.append_cancel_left (congrArg Scratch.bytes hbuffer), htable⟩

/-- An encoder that nothing but a buffer can keep from writing writes to every buffer with room. -/
theorem run_eq {x : EncodeM τ α} (hx : Writes (fun _ => False) x t a bs t') {b : Scratch}
    (hroom : b.bytes.length + bs.length ≤ b.capacity) :
    x.run.run ⟨b, t⟩ = (.ok a, ⟨{ b with bytes := b.bytes ++ bs }, t'⟩) := by
  rcases h : x.run.run ⟨b, t⟩ with ⟨r, sheet⟩
  have hx := hx b (Nat.le_trans (Nat.le_add_right _ _) hroom)
  rw [h] at hx
  cases hx with
  | fits => rfl
  | overflows _ _ hneeded hle => omega
  | refused he => exact he.elim

theorem appends {x : EncodeM τ α} (hx : Writes (fun _ => False) x t a bs t') :
    Appends x t a bs t' :=
  ⟨{ capacity := bs.length }, Nat.zero_le _, hx.run_eq (Nat.le_of_eq (Nat.zero_add _))⟩

/-- What such an encoder has appended is what it writes. -/
theorem appends_iff {x : EncodeM τ α} (hx : Writes (fun _ => False) x t a bs t') :
    Appends x t a bs' t'' ↔ bs' = bs ∧ t'' = t' := by
  constructor
  · exact fun h => (hx.eq_of_appends h).2
  · rintro ⟨rfl, rfl⟩
    exact hx.appends

/-- Encoders one after the other write their bytes one after the other. -/
theorem bind {x : EncodeM τ α} {k : α → EncodeM τ β} (hx : Writes E x t a bs t')
    (hk : Writes E (k a) t' c bs' t'') : Writes E (x >>= k) t c (bs ++ bs') t'' := by
  intro b hb
  have hlength : (bs ++ bs').length = bs.length + bs'.length := List.length_append
  rcases h : x.run.run ⟨b, t⟩ with ⟨r, sheet⟩
  have hx := hx b hb
  rw [h] at hx
  cases hx with
  | refused he =>
    rw [run_bind_error h]
    exact .refused he
  | @overflows needed part rest last hbs hpart hneeded hle =>
    have hsplit : bs ++ bs' = part ++ (rest ++ bs') := by rw [hbs, List.append_assoc]
    rw [run_bind_error h]
    exact .overflows hsplit hpart hneeded (by omega)
  | fits hfits =>
    rw [run_bind_ok h]
    have hlength' : (b.bytes ++ bs).length = b.bytes.length + bs.length := List.length_append
    rcases h' : (k a).run.run ⟨{ b with bytes := b.bytes ++ bs }, t'⟩ with ⟨r', sheet'⟩
    have hk := hk { b with bytes := b.bytes ++ bs } (by rw [hlength']; exact hfits)
    rw [h'] at hk
    cases hk with
    | refused he => exact .refused he
    | fits hfits' =>
      dsimp only at hfits' ⊢
      rw [List.append_assoc]
      exact .fits (by omega)
    | @overflows needed part rest last hbs hpart hneeded hle =>
      dsimp only at hpart hneeded hle ⊢
      have hsplit : bs ++ bs' = (bs ++ part) ++ rest := by rw [hbs, List.append_assoc]
      have hpart' : (bs ++ part).length = bs.length + part.length := List.length_append
      rw [List.append_assoc]
      exact .overflows hsplit (by omega) hneeded (by omega)

/-- An encoder without bytes of its own, before another one. -/
theorem bind_nil {x : EncodeM τ α} {k : α → EncodeM τ β} (hx : Writes E x t a [] t')
    (hk : Writes E (k a) t' c bs' t'') : Writes E (x >>= k) t c bs' t'' := hx.bind hk

/-- An encoder before another one without bytes of its own. -/
theorem bind_pure {x : EncodeM τ α} (hx : Writes E x t a bs t') (c : β) :
    Writes E (x >>= fun _ => pure c) t c bs t' := by
  have hboth : Writes E (x >>= fun _ => pure c) t c (bs ++ []) t' := hx.bind (writes_pure c t')
  rwa [List.append_nil] at hboth

end Writes

theorem writes_putAll (t : τ) : ∀ bss : List Bytes, Writes E (putAll bss) t () bss.flatten t
  | [] => writes_pure () t
  | bs :: bss => (writes_put bs t).bind (writes_putAll t bss)

theorem writes_forM {γ : Type} {f : γ → EncodeM τ PUnit} {bytesOf : γ → Bytes} :
    ∀ {cs : List γ}, (∀ c ∈ cs, Writes E (f c) t ⟨⟩ (bytesOf c) t) →
      Writes E (cs.forM f) t ⟨⟩ (cs.flatMap bytesOf) t
  | [], _ => writes_pure PUnit.unit t
  | c :: cs, h => by
    have hrest := writes_forM fun c hc => h c (List.mem_cons_of_mem _ hc)
    rw [List.flatMap_cons]
    exact (h c List.mem_cons_self).bind hrest

end Clearance.EncodeM
