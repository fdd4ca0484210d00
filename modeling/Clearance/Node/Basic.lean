import Std.Data.ExtTreeSet

/-!
# Nodes and triples

A triple has a subject, a predicate and an object. Each of the three is a *node*: a URI, a literal,
a blank node, or the wildcard. A literal is a text, with at most one of a datatype and a language. A
triple is *concrete* when none of its nodes is the wildcard.

Nodes are ordered by kind, and within a kind by their texts; a plain literal comes before the typed
literals with the same text, and these before those in a language. Triples are ordered by subject,
then predicate, then object.

## Main definitions

* `Clearance.Literal`, `Clearance.Node`, `Clearance.Triple`.
* `Clearance.NodeKind` — the kinds of nodes and their tags in stored keys.
* `Clearance.Triple.sorted` — triples in ascending order without repetitions.

## Main results

* The orders of nodes and of triples are total orders: the instances of `Std.TransOrd` and
  `Std.LawfulEqOrd`.
-/

namespace Clearance

/-! ### The types -/

/-- What a literal carries beside its text. -/
inductive Qualifier where
  /-- Nothing. -/
  | plain
  /-- The IRI of a datatype. -/
  | datatype (iri : String)
  /-- The tag of a language. -/
  | language (tag : String)
deriving DecidableEq, Repr

/-- A literal. -/
structure Literal where
  /-- The text. -/
  lexical : String
  /-- The datatype or language. -/
  qualifier : Qualifier := .plain
deriving DecidableEq, Repr

/-- One position of a triple. -/
inductive Node where
  /-- A node named by an IRI. -/
  | uri (iri : String)
  /-- A literal. -/
  | literal (l : Literal)
  /-- A node without a name of its own. -/
  | blank (label : String)
  /-- The wildcard, which stands for any node. -/
  | any
deriving DecidableEq, Repr

/-- The kinds of nodes. -/
inductive NodeKind where
  /-- URIs. -/
  | uri
  /-- Literals. -/
  | literal
  /-- Blank nodes. -/
  | blank
  /-- The wildcard. -/
  | any
deriving DecidableEq, Repr

/-- Subject, predicate and object. -/
structure Triple where
  /-- The subject. -/
  s : Node
  /-- The predicate. -/
  p : Node
  /-- The object. -/
  o : Node
deriving DecidableEq, Repr

namespace NodeKind

/-- The number of a kind in stored keys. -/
def tag : NodeKind → Nat
  | uri => 0
  | literal => 1
  | blank => 2
  | any => 3

/-- The kind with a given number. -/
def ofTag? : Nat → Option NodeKind
  | 0 => some uri
  | 1 => some literal
  | 2 => some blank
  | 3 => some any
  | _ => none

/-- The name of a kind. -/
def name : NodeKind → String
  | uri => "Uri"
  | literal => "Literal"
  | blank => "Blank"
  | any => "Any"

end NodeKind

/-- The kind of a node. -/
def Node.kind : Node → NodeKind
  | .uri _ => .uri
  | .literal _ => .literal
  | .blank _ => .blank
  | .any => .any

/-- Whether a node is not the wildcard. -/
def Node.isConcrete (n : Node) : Bool := n ≠ .any

/-- Whether a triple has no wildcard. -/
def Triple.isConcrete (t : Triple) : Bool := t.s.isConcrete && t.p.isConcrete && t.o.isConcrete

/-! ### The order -/

/-- The place of a qualifier among the qualifiers. -/
def Qualifier.rank : Qualifier → Nat
  | .plain => 0
  | .datatype _ => 1
  | .language _ => 2

/-- The text of a qualifier. -/
def Qualifier.text : Qualifier → String
  | .plain => ""
  | .datatype iri => iri
  | .language tag => tag

/-- The text of a node. -/
def Node.text : Node → String
  | .uri iri => iri
  | .literal l => l.lexical
  | .blank label => label
  | .any => ""

/-- The qualifier of a node, which is plain for a node that is no literal. -/
def Node.qualifier : Node → Qualifier
  | .literal l => l.qualifier
  | _ => .plain

/-- The order of nodes: by kind, then text, then qualifier. -/
instance : Ord Node where
  compare := compareLex (compareOn fun n => n.kind.tag) <| compareLex (compareOn Node.text) <|
    compareLex (compareOn fun n => n.qualifier.rank) (compareOn fun n => n.qualifier.text)

/-- The order of triples: by subject, then predicate, then object. -/
instance : Ord Triple where
  compare := compareLex (compareOn Triple.s) <| compareLex (compareOn Triple.p) (compareOn Triple.o)

instance : Std.TransOrd Node :=
  inferInstanceAs <| Std.TransCmp <| compareLex (compareOn fun n : Node => n.kind.tag) <|
    compareLex (compareOn Node.text) <|
      compareLex (compareOn fun n : Node => n.qualifier.rank)
        (compareOn fun n : Node => n.qualifier.text)

instance : Std.TransOrd Triple :=
  inferInstanceAs <| Std.TransCmp <| compareLex (compareOn Triple.s) <|
    compareLex (compareOn Triple.p) (compareOn Triple.o)

theorem Qualifier.eq_of_rank_of_text {a b : Qualifier} (hr : a.rank = b.rank)
    (ht : a.text = b.text) : a = b := by
  cases a <;> cases b <;> simp_all [rank, text]

/-- Kind, text and qualifier determine a node. -/
theorem Node.eq_of_parts {a b : Node} (hk : a.kind.tag = b.kind.tag) (ht : a.text = b.text)
    (ha : a.qualifier = b.qualifier) : a = b := by
  cases a <;> cases b <;> simp_all [kind, NodeKind.tag, text, qualifier]
  rename_i l m
  cases l; cases m; simp_all

instance : Std.LawfulEqOrd Node where
  eq_of_compare {a b} h := by
    have h : (compare a.kind.tag b.kind.tag).then ((compare a.text b.text).then
        ((compare a.qualifier.rank b.qualifier.rank).then
          (compare a.qualifier.text b.qualifier.text))) = .eq := h
    simp only [Ordering.then_eq_eq] at h
    obtain ⟨hk, ht, hr, hx⟩ := h
    exact Node.eq_of_parts (Std.LawfulEqOrd.eq_of_compare hk) (Std.LawfulEqOrd.eq_of_compare ht)
      (Qualifier.eq_of_rank_of_text (Std.LawfulEqOrd.eq_of_compare hr)
        (Std.LawfulEqOrd.eq_of_compare hx))

instance : Std.LawfulEqOrd Triple where
  eq_of_compare {a b} h := by
    have h : (compare a.s b.s).then ((compare a.p b.p).then (compare a.o b.o)) = .eq := h
    simp only [Ordering.then_eq_eq] at h
    obtain ⟨hs, hp, ho⟩ := h
    cases a
    cases b
    simp only [Triple.mk.injEq]
    exact ⟨Std.LawfulEqOrd.eq_of_compare hs, Std.LawfulEqOrd.eq_of_compare hp,
      Std.LawfulEqOrd.eq_of_compare ho⟩

/-- The triples of a list in ascending order, each once. -/
def Triple.sorted (ts : List Triple) : List Triple := (Std.ExtTreeSet.ofList ts).toList

end Clearance
