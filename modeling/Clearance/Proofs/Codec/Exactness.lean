import Clearance.Proofs.Codec.Reads
import Clearance.Proofs.Codec.Writes

/-!
# What decoders take

A decoder *takes* bytes of a certain kind when every byte string either begins with such bytes, and
then just these are taken, or is found to be corrupt. A decoder is *exact* when what it takes is
what it would take in front of all other bytes too. An exact decoder that reads what was written
also finds out when the end of it is missing.

## Main definitions

* `Clearance.DecodeM.Takes`, `Clearance.DecodeM.Exact` — decoders that take certain bytes, and exact
  ones.
* `Clearance.DecodeM.ReadsBack` — decoders that undo a way of writing.

## Main results

* `Clearance.DecodeM.Takes.bind`, `Clearance.DecodeM.takes_mapM`, `Clearance.DecodeM.Exact.bind` —
  decoders one after the other.
* `Clearance.DecodeM.Exact.readsBack` — exact decoders undo what they can read.
-/

namespace Clearance

namespace DecodeM

variable {α β γ : Type} {a : α} {P : Bytes → α → Prop} {R : Bytes → β → Prop}

/-- A decoder that takes from the front of every byte string bytes with an answer that `P` relates,
or finds the string corrupt. -/
def Takes (x : DecodeM α) (P : Bytes → α → Prop) : Prop :=
  ∀ bs offset,
    (∃ taken rest a, bs = taken ++ rest ∧ P taken a ∧
      x.run.run ⟨bs, offset⟩ = (.ok a, ⟨rest, offset + taken.length⟩)) ∨
    ∃ fault r, x.run.run ⟨bs, offset⟩ = (.error (.corrupt fault), r)

/-- A decoder that takes only what it would also take in front of all other bytes. -/
def Exact (x : DecodeM α) : Prop := Takes x (Reads x)

/-! ### Taking bytes -/

theorem takes_pure (h : P [] a) : Takes (pure a) P := fun bs _ => .inl ⟨[], bs, a, rfl, h, rfl⟩

theorem takes_throw (fault : Corruption) : Takes (throw (.corrupt fault)) P :=
  fun _ _ => .inr ⟨fault, _, rfl⟩

namespace Takes

theorem mono {Q : Bytes → α → Prop} {x : DecodeM α} (hx : Takes x P)
    (h : ∀ taken a, P taken a → Q taken a) : Takes x Q := by
  intro bs offset
  rcases hx bs offset with ⟨taken, rest, a, hbs, ha, hrun⟩ | hfault
  · exact .inl ⟨taken, rest, a, hbs, h taken a ha, hrun⟩
  · exact .inr hfault

/-- Decoders one after the other take bytes one after the other. -/
theorem bind {x : DecodeM α} {k : α → DecodeM β} (hx : Takes x P)
    (hk : ∀ front a, P front a → Takes (k a) fun back b => R (front ++ back) b) :
    Takes (x >>= k) R := by
  intro bs offset
  rcases hx bs offset with ⟨front, rest, a, rfl, ha, hrun⟩ | ⟨fault, r, hrun⟩
  · rw [run_bind_ok hrun]
    rcases hk front a ha rest (offset + front.length) with
      ⟨back, rest, b, rfl, hb, hrun'⟩ | hfault
    · refine .inl ⟨front ++ back, rest, b, (List.append_assoc ..).symm, hb, ?_⟩
      rw [hrun', List.length_append, Nat.add_assoc]
    · exact .inr hfault
  · exact .inr ⟨fault, r, run_bind_error hrun k⟩

end Takes

/-- A decoder for every element of a list, each of which takes the bytes of its answer. -/
theorem takes_mapM {f : γ → DecodeM α} {bytesOf : α → Bytes} {key : α → γ} {Q : α → Prop} :
    ∀ {cs : List γ}, (∀ c ∈ cs, Takes (f c) fun taken a => taken = bytesOf a ∧ key a = c ∧ Q a) →
      Takes (cs.mapM f) fun taken as => taken = as.flatMap bytesOf ∧ as.map key = cs ∧ ∀ a ∈ as, Q a
  | [], _ => by
    rw [List.mapM_nil]
    exact takes_pure ⟨rfl, rfl, fun a ha => absurd ha List.not_mem_nil⟩
  | c :: cs, h => by
    have hrest := takes_mapM fun c hc => h c (List.mem_cons_of_mem _ hc)
    rw [List.mapM_cons]
    refine (h c List.mem_cons_self).bind ?_
    rintro front a ⟨rfl, hkey, ha⟩
    refine hrest.bind ?_
    rintro back as ⟨rfl, hkeys, has⟩
    refine takes_pure ⟨?_, ?_, List.forall_mem_cons.2 ⟨ha, has⟩⟩
    · rw [List.append_nil, List.flatMap_cons]
    · rw [List.map_cons, hkey, hkeys]

/-! ### Exact decoders -/

theorem exact_pure (a : α) : Exact (pure a) := takes_pure (reads_pure a)

theorem exact_throw (fault : Corruption) : Exact (throw (.corrupt fault) : DecodeM α) :=
  takes_throw fault

theorem exact_lift (r : Except Corruption α) :
    Exact (liftM (r.mapError Error.corrupt) : DecodeM α) := by
  cases r with
  | ok a => exact exact_pure a
  | error fault => exact exact_throw fault

theorem Exact.bind {x : DecodeM α} {k : α → DecodeM β} (hx : Exact x) (hk : ∀ a, Exact (k a)) :
    Exact (x >>= k) :=
  Takes.bind hx fun _ a hfront => (hk a).mono fun _ _ hback => hfront.bind hback

/-- A decoder that *reads back* what `Written` relates to values: it takes a written form and
nothing that follows it; no written form begins with one of another value; and it finds every
written form corrupt of which an end is missing. -/
structure ReadsBack (x : DecodeM α) (Written : α → Bytes → Prop) : Prop where
  /-- What was written is read, whatever follows it, and what follows it is left. -/
  reads {a : α} {bs : Bytes} (h : Written a bs) : Reads x bs a
  /-- Written forms tell values apart, also by any part of what follows them. -/
  apart {a b : α} {bs bs' : Bytes} (h : Written a bs) (h' : Written b bs') (hne : a ≠ b) :
    ¬ bs <+: bs'
  /-- A written form that is cut off is corrupt. -/
  cut {a : α} {bs : Bytes} (h : Written a bs) {n : Nat} (hn : n < bs.length) (offset : Nat) :
    ∃ fault r, x.run.run ⟨bs.take n, offset⟩ = (.error (.corrupt fault), r)

/-- An exact decoder reads back whatever it reads. -/
theorem Exact.readsBack {x : DecodeM α} {Written : α → Bytes → Prop} (hx : Exact x)
    (h : ∀ a bs, Written a bs → Reads x bs a) : ReadsBack x Written where
  reads := h _ _
  apart := by
    rintro a b bs bs' ha hb hne ⟨rest, hrest⟩
    have heq : bs ++ rest = bs' ++ [] := by rw [hrest, List.append_nil]
    exact hne ((h a bs ha).eq_of_append_eq (h b bs' hb) heq).1
  cut := by
    intro a bs ha n hn offset
    -- If a value were read from the part, the whole would have bytes left.
    rcases hx (bs.take n) offset with ⟨taken, rest, b, hsplit, hreads, -⟩ | hfault
    · have heq : bs ++ [] = taken ++ (rest ++ bs.drop n) := by
        rw [← List.append_assoc, ← hsplit, List.take_append_drop, List.append_nil]
      have hnil := ((h a bs ha).eq_of_append_eq hreads heq).2
      have hlength := congrArg List.length hnil
      rw [List.length_append, List.length_drop] at hlength
      simp only [List.length_nil] at hlength
      omega
    · exact hfault

end DecodeM

namespace ByteReader

open DecodeM

theorem takes_take (n : Nat) : Takes (take n) fun taken bs => taken = bs ∧ bs.length = n := by
  intro bs offset
  rw [take, run_get_bind]
  dsimp only
  by_cases h : n ≤ bs.length
  · have hlength : (bs.take n).length = n := List.length_take_of_le h
    have hsplit := (List.take_append_drop n bs).symm
    refine .inl ⟨bs.take n, bs.drop n, bs.take n, hsplit, ⟨rfl, hlength⟩, ?_⟩
    rw [if_pos h, hlength]
    rfl
  · rw [if_neg h]
    exact .inr ⟨_, _, rfl⟩

theorem takes_number (width : Nat) :
    Takes (number width) fun taken n => taken = leBytes width n ∧ n < 1 <<< (8 * width) := by
  refine (takes_take width).bind ?_
  rintro front bs ⟨rfl, rfl⟩
  refine takes_pure ⟨?_, leValue_lt front⟩
  rw [List.append_nil, leBytes_leValue]

theorem exact_take (n : Nat) : Exact (take n) := by
  refine (takes_take n).mono ?_
  rintro taken _ ⟨rfl, hlength⟩
  exact reads_take hlength

theorem exact_number (width : Nat) : Exact (number width) :=
  (exact_take width).bind fun _ => exact_pure _

theorem exact_signed (width : Nat) : Exact (signed width) := by
  refine (exact_take width).bind fun bs => ?_
  split
  · exact exact_pure _
  · exact exact_throw _

theorem exact_kind : Exact kind := (exact_number 1).bind fun _ => exact_lift _

end ByteReader

end Clearance
