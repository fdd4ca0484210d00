import Clearance.Codec.Key
import Clearance.Codec.LabelList
import Clearance.Proofs.Codec.Writes
import Clearance.Proofs.NodeTable.Growth

/-!
# Encoders let the table of nodes grow

Whatever is encoded, and whether it fits its buffer or not, the table of nodes at most grows. An
encoder that fails may have given numbers to nodes before; they stand behind the old ones and can be
taken back.

## Main definitions

* `Clearance.EncodeM.Grows` — encoders that let the table grow.

## Main results

* `Clearance.KeyFormat.grows_encodeNode`, `Clearance.KeyFormat.grows_encodeTriple` — keys.
* `Clearance.LabelList.grows_encode` — lists of labels.
-/

namespace Clearance

namespace EncodeM

open NodeTable

variable {α : Type} {numbered : Prop}

/-- An encoder that lets the table of nodes grow, also when it fails. -/
abbrev Grows (numbered : Prop) (x : EncodeM NodeTable α) : Prop :=
  NodeTable.Grows numbered Sheet.table x

theorem grows_put (bs : Bytes) : Grows numbered (put bs) :=
  grows_of_table_eq fun sheet => (keeps_put sheet.table bs sheet rfl).1

theorem grows_putAll : ∀ bss : List Bytes, Grows numbered (putAll bss)
  | [] => grows_pure ()
  | bs :: bss => (grows_put bs).bind fun _ => grows_putAll bss

theorem grows_forM {γ : Type} {f : γ → EncodeM NodeTable PUnit} (hf : ∀ c, (f c).Grows numbered) :
    ∀ cs : List γ, Grows numbered (cs.forM f)
  | [] => grows_pure PUnit.unit
  | c :: cs => (hf c).bind fun _ => grows_forM hf cs

end EncodeM

open EncodeM NodeTable

variable {numbered : Prop}

/-! ### The formats -/

theorem ByString.grows_putHeader (kind : NodeKind) (length : Nat) :
    Grows numbered (ByString.putHeader kind length) := by
  unfold ByString.putHeader
  split
  · exact (grows_throw _).bind fun _ => (grows_put _).bind fun _ => grows_put _
  · exact (grows_put _).bind fun _ => grows_put _

theorem ByString.grows_encodeNode (n : Node) : Grows numbered (ByString.encodeNode n) :=
  (ByString.grows_putHeader _ _).bind fun _ => grows_put _

theorem ByString.grows_encodeTriple (t : Triple) : Grows numbered (ByString.encodeTriple t) :=
  (grows_forM (fun _ => ByString.grows_putHeader _ _) _).bind fun _ => grows_putAll _

/-- What is written for a node with a number. -/
theorem ByNodeId.grows_putNumber (n : Node) (id : Nat) : Grows numbered (do
    EncodeM.put [ByNodeId.topByte n.kind (ByNodeId.sizeOf id)]
    EncodeM.put (leBytes (1 <<< ByNodeId.sizeOf id) id)
    return true : EncodeM NodeTable Bool) :=
  (grows_put _).bind fun _ => (grows_put _).bind fun _ => grows_pure true

theorem ByNodeId.run_numberOf?_store (n : Node) (sheet : Sheet NodeTable) :
    (ByNodeId.numberOf? n .store).run.run sheet
      = (.ok (some (sheet.table.allocate n).1),
        { sheet with table := (sheet.table.allocate n).2 }) :=
  rfl

theorem ByNodeId.grows_encodeNode (n : Node) {use : KeyUse} (hnum : use = .store → numbered) :
    Grows numbered (ByNodeId.encodeNode n use : EncodeM NodeTable Bool) := by
  unfold ByNodeId.encodeNode
  split
  · exact (grows_put _).bind fun _ => grows_pure true
  have hput (id : Nat) : Grows numbered _ := grows_putNumber n id
  cases use with
  | lookup =>
    have hnumber : Grows numbered (ByNodeId.numberOf? n .lookup : EncodeM NodeTable (Option Nat)) :=
      grows_of_table_eq fun _ => rfl
    refine hnumber.bind fun id? => ?_
    cases id? with
    | none => exact grows_pure false
    | some id =>
      dsimp only
      split
      · exact (grows_throw _).bind fun _ => hput id
      · exact hput id
  | store =>
    -- A number that is too large is allocated first and refused then.
    refine ⟨fun sheet => ?_, fun {sheet sheet' a} h hfits => ?_, fun hno => absurd (hnum rfl) hno⟩
    · rw [run_bind_ok (run_numberOf?_store n sheet)]
      refine (extends_allocate sheet.table n).trans ?_
      dsimp only
      split
      · exact ((grows_throw _).bind fun _ => hput _).extends_table (Sheet.mk _ _)
      · exact (hput _).extends_table (Sheet.mk _ _)
    · rw [run_bind_ok (run_numberOf?_store n sheet)] at h
      dsimp only at h
      split at h
      · cases h
      · next hid => exact (hput _).fits h (fits_allocate hfits (by omega))

theorem ByHash.grows_encodeNode (algorithm : DigestAlgorithm) (n : Node) :
    Grows numbered (ByHash.encodeNode algorithm n) := grows_put _

namespace KeyFormat

variable {use : KeyUse}

/-- Only for keys that hold numbers and are stored, the table may have to grow. -/
theorem grows_encodeNode (format : KeyFormat) (n : Node)
    (hnum : format = .byNodeId → use = .store → numbered) :
    Grows numbered (format.encodeNode n use : EncodeM NodeTable Bool) := by
  cases format with
  | byString => exact (ByString.grows_encodeNode n).bind fun _ => grows_pure true
  | byNodeId => exact ByNodeId.grows_encodeNode n (hnum rfl)
  | byHash algorithm => exact (ByHash.grows_encodeNode algorithm n).bind fun _ => grows_pure true

theorem grows_encodeNodes (format : KeyFormat)
    (hnum : format = .byNodeId → use = .store → numbered) : ∀ ns : List Node,
    Grows numbered (format.encodeNodes use ns : EncodeM NodeTable Bool)
  | [] => grows_pure true
  | n :: ns => (grows_encodeNode format n hnum).bind fun known => by
    cases known with
    | true => exact grows_encodeNodes format hnum ns
    | false => exact grows_pure false

theorem grows_encodeTriple (format : KeyFormat) (t : Triple)
    (hnum : format = .byNodeId → use = .store → numbered) :
    Grows numbered (format.encodeTriple t use : EncodeM NodeTable Bool) := by
  cases format with
  | byString => exact (ByString.grows_encodeTriple t).bind fun _ => grows_pure true
  | byNodeId => exact grows_encodeNodes _ hnum _
  | byHash algorithm => exact grows_encodeNodes _ hnum _

end KeyFormat

theorem LabelList.grows_putLength (length : Nat) : Grows numbered (LabelList.putLength length) :=
  (grows_lift _).bind fun _ => grows_put _

theorem LabelList.grows_encode (labels : List Label) : Grows numbered (LabelList.encode labels) :=
  (LabelList.grows_putLength _).bind fun _ =>
    (grows_forM (fun _ => LabelList.grows_putLength _) _).bind fun _ => grows_putAll _

end Clearance
