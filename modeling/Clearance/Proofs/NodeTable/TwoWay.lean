import Clearance.Proofs.NodeTable.Growth

/-!
# Tables in which numbers and nodes belong together

What keys with numbers ask of a table of nodes is little: that a node has a number exactly if the
number has the node, and that to allocate a number for a node keeps the numbers that are known. The
table with consecutive numbers is of this sort, and so may be others, with any numbers, which
allocate for some nodes only.

## Main definitions

* `Clearance.NodeIds.TwoWay`, `Clearance.NodeIds.Small` — tables in which numbers and nodes belong
  together, and with numbers that can be written.
* `Clearance.NodeIds.Knows`, `Clearance.NodeIds.KeptIn` — what a table knows of nodes, and what
  another table keeps of it.
* `Clearance.LawfulNodeIds` — types of tables whose numbers stay.

## Main results

* `Clearance.NodeTable.twoWay`, `Clearance.NodeTable.small` — tables with consecutive numbers.
-/

namespace Clearance

namespace NodeIds

variable {τ : Type} [NodeIds τ] {t t' t'' : τ} {n m : Node} {id : Nat}

/-- Whether a node has a number exactly if the number has the node. -/
def TwoWay (t : τ) : Prop := ∀ n id, idFor? t n = some id ↔ nodeFor? t id = some n

/-- Whether all numbers of nodes are signed words. -/
def Small (t : τ) : Prop := ∀ n id, idFor? t n = some id → id < 1 <<< 63

/-- Whether a node is the wildcard or has a number. -/
def Knows (t : τ) (n : Node) : Prop := n = .any ∨ ∃ id, idFor? t n = some id

/-- Whether the nodes that have numbers in the first table have them in the second one, too. -/
def KeptIn (t t' : τ) : Prop := ∀ n id, idFor? t n = some id → idFor? t' n = some id

theorem KeptIn.refl (t : τ) : KeptIn t t := fun _ _ h => h

theorem KeptIn.trans (h : KeptIn t t') (h' : KeptIn t' t'') : KeptIn t t'' :=
  fun n id hid => h' n id (h n id hid)

end NodeIds

/-- Types of tables that allocate a number only for a node that has none, that know a number once it
is allocated, and that keep the numbers they know. -/
class LawfulNodeIds (τ : Type) [NodeIds τ] : Prop where
  /-- The number of a node that has one is not changed. -/
  allocate_known {t : τ} {n : Node} {id : Nat} (h : NodeIds.idFor? t n = some id) :
    NodeIds.allocate t n = .ok (id, t)
  /-- A node has the number that was allocated for it. -/
  idFor?_allocate {t t' : τ} {n : Node} {id : Nat} (h : NodeIds.allocate t n = .ok (id, t')) :
    NodeIds.idFor? t' n = some id
  /-- Other nodes keep their numbers. -/
  keeps_allocate {t t' : τ} {n : Node} {id : Nat} (h : NodeIds.allocate t n = .ok (id, t')) :
    NodeIds.KeptIn t t'
  /-- Numbers and nodes go on belonging together. -/
  twoWay_allocate {t t' : τ} {n : Node} {id : Nat} (h : NodeIds.allocate t n = .ok (id, t')) :
    NodeIds.TwoWay t → NodeIds.TwoWay t'

namespace NodeTable

variable {t : NodeTable}

/-- A table that has grown from the empty one. -/
theorem twoWay (h : empty.Extends t) : NodeIds.TwoWay t := fun _ _ => idFor?_eq_some_iff h

theorem small (h : empty.Extends t) (hfits : t.Fits) : NodeIds.Small t := fun _ _ hid =>
  Nat.lt_of_le_of_lt (le_size_of_nodeFor? ((idFor?_eq_some_iff h).1 hid)).2 hfits

instance : LawfulNodeIds NodeTable where
  allocate_known {t n id} h := by
    have hid : t.idFor? n = some id := h
    exact congrArg Except.ok (by simp only [allocate, hid])
  idFor?_allocate {t t' n id} h := by
    obtain ⟨rfl, rfl⟩ : (t.allocate n).1 = id ∧ (t.allocate n).2 = t' :=
      Prod.mk.inj (Except.ok.inj h)
    exact idFor?_allocate t n
  keeps_allocate {t t' n id} h := by
    obtain ⟨rfl, rfl⟩ : (t.allocate n).1 = id ∧ (t.allocate n).2 = t' :=
      Prod.mk.inj (Except.ok.inj h)
    exact fun _ _ => (extends_allocate t n).idFor?_eq
  twoWay_allocate {t t' n id} h ht := by
    obtain ⟨rfl, rfl⟩ : (t.allocate n).1 = id ∧ (t.allocate n).2 = t' :=
      Prod.mk.inj (Except.ok.inj h)
    cases hn : t.idFor? n with
    | some id => simpa only [allocate, hn] using ht
    | none =>
      simp only [allocate, hn]
      exact fun _ _ => idFor?_push_eq_some_iff hn ht

end NodeTable

end Clearance
