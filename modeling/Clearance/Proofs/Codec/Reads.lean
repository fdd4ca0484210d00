import Clearance.Bytes.Reader
import Clearance.Proofs.Running

/-!
# What decoders read

A decoder *reads* a value from certain bytes when it takes just these bytes from every byte string
that begins with them. Bytes that can be read end where they end: two byte strings that begin with
such bytes and are equal hold the same value and go on in the same way.

## Main definitions

* `Clearance.DecodeM.Reads` — decoders that read a value from certain bytes.

## Main results

* `Clearance.DecodeM.Reads.bind`, `Clearance.DecodeM.reads_mapM` — decoders one after the other.
* `Clearance.DecodeM.Reads.eq_of_append_eq` — bytes that can be read end where they end.
* `Clearance.ByteReader.reads_take`, `Clearance.ByteReader.reads_number`,
  `Clearance.ByteReader.reads_signed` — the decoders of which others are made.
-/

namespace Clearance

namespace DecodeM

variable {α β γ : Type} {a a' : α} {b : β} {bs bs' rest rest' : Bytes}

/-- A decoder that reads `a` from `bs`, whatever bytes come next, and leaves these. -/
def Reads (x : DecodeM α) (bs : Bytes) (a : α) : Prop :=
  ∀ rest offset, x.run.run ⟨bs ++ rest, offset⟩ = (.ok a, ⟨rest, offset + bs.length⟩)

theorem reads_pure (a : α) : Reads (pure a) [] a := fun _ _ => rfl

theorem reads_lift {r : Except Error α} (h : r = .ok a) : Reads (liftM r) [] a := by
  subst h
  exact reads_pure a

namespace Reads

/-- Decoders one after the other read from bytes one after the other. -/
theorem bind {x : DecodeM α} {k : α → DecodeM β} (hx : Reads x bs a) (hk : Reads (k a) bs' b) :
    Reads (x >>= k) (bs ++ bs') b := by
  intro rest offset
  rw [List.append_assoc, run_bind_ok (hx (bs' ++ rest) offset), hk rest (offset + bs.length),
    List.length_append, Nat.add_assoc]

/-- A decoder before another one without bytes of its own. -/
theorem bind_nil {x : DecodeM α} {k : α → DecodeM β} (hx : Reads x bs a) (hk : Reads (k a) [] b) :
    Reads (x >>= k) bs b := by
  have hboth := hx.bind hk
  rwa [List.append_nil] at hboth

/-- Bytes that can be read end where they end. -/
theorem eq_of_append_eq {x : DecodeM α} (h : Reads x bs a) (h' : Reads x bs' a')
    (heq : bs ++ rest = bs' ++ rest') : a = a' ∧ rest = rest' := by
  have hrun := h rest 0
  rw [heq, h' rest' 0] at hrun
  obtain ⟨hanswer, hplace⟩ := Prod.mk.inj hrun
  exact ⟨(Except.ok.inj hanswer).symm, (congrArg ByteReader.rest hplace).symm⟩

end Reads

theorem reads_mapM {f : γ → DecodeM α} {bytesOf : γ → Bytes} {value : γ → α} :
    ∀ {cs : List γ}, (∀ c ∈ cs, Reads (f c) (bytesOf c) (value c)) →
      Reads (cs.mapM f) (cs.flatMap bytesOf) (cs.map value)
  | [], _ => by
    rw [List.mapM_nil]
    exact reads_pure []
  | c :: cs, h => by
    have hrest := reads_mapM fun c hc => h c (List.mem_cons_of_mem _ hc)
    rw [List.mapM_cons, List.flatMap_cons]
    exact (h c List.mem_cons_self).bind (hrest.bind_nil (reads_pure _))

end DecodeM

namespace ByteReader

open DecodeM

variable {bs : Bytes} {width n : Nat}

theorem reads_take (h : bs.length = n) : Reads (take n) bs bs := by
  intro rest offset
  subst h
  have hle : bs.length ≤ (bs ++ rest).length := by
    rw [List.length_append]
    omega
  rw [take, run_get_bind]
  dsimp only
  rw [if_pos hle, List.drop_left, List.take_left]
  rfl

theorem reads_number (h : n < 1 <<< (8 * width)) : Reads (number width) (leBytes width n) n := by
  refine (reads_take (length_leBytes width n)).bind_nil ?_
  rw [leValue_leBytes h]
  exact reads_pure n

/-- A number of the lower half is read as it is. -/
theorem reads_signed (hwidth : width ∈ signedWidths) (h : 2 * n < 1 <<< (8 * width)) :
    Reads (signed width) (leBytes width n) (n : Int) := by
  have hsigned : leSigned (leBytes width n) = n := by
    rw [leSigned, leValue_leBytes (by omega), length_leBytes]
    exact Int.bmod_eq_of_le (by omega) (by omega)
  refine (reads_take (length_leBytes width n)).bind_nil ?_
  rw [if_pos (List.contains_iff_mem.2 hwidth), hsigned]
  exact reads_pure _

theorem reads_kind (kind : NodeKind) : Reads ByteReader.kind [UInt8.ofNat kind.tag] kind := by
  have hnumber : Reads (number 1) [UInt8.ofNat kind.tag] kind.tag := by
    have hsmall : kind.tag < 1 <<< (8 * 1) := by cases kind <;> decide
    have hbytes : leBytes 1 kind.tag = [UInt8.ofNat kind.tag] := by cases kind <;> rfl
    exact hbytes ▸ reads_number hsmall
  refine hnumber.bind_nil (reads_lift ?_)
  cases kind with
  | uri => rfl
  | literal => rfl
  | blank => rfl
  | any => rfl

end ByteReader

end Clearance
