import Clearance.Node.Printer
import Clearance.Node.Reader

/-!
# Nodes and their terms

Every node is read back from its term. So the term tells the node, and saving terms loses nothing.

## Main results

* `Clearance.Node.ofTerm_term` — reading a term that was printed.
* `Clearance.Node.term_injective` — different nodes have different terms.
-/

namespace Clearance

/-- A character inside the quotes is read back, whether it was escaped or not. -/
theorem lexicalBody_escapeLexical (c : Char) (s : List Char) :
    lexicalBody (escapeLexical c ++ s) = (lexicalBody s).map fun (t, r) => (c :: t, r) := by
  by_cases hquote : c = '"'
  · subst hquote
    rfl
  by_cases hslash : c = '\\'
  · subst hslash
    rfl
  by_cases hnewline : c = '\n'
  · subst hnewline
    rfl
  by_cases hreturn : c = '\r'
  · subst hreturn
    rfl
  by_cases htab : c = '\t'
  · subst htab
    rfl
  have hc : escapeLexical c = [c] := by
    simp only [escapeLexical]
  rw [hc, List.singleton_append, lexicalBody]
  · exact fun h _ => hslash h
  · exact fun _ _ h _ => hslash h
  · exact hquote

theorem lexicalBody_escape : ∀ s r : List Char,
    lexicalBody (s.flatMap escapeLexical ++ '"' :: r) = some (s, r)
  | [], r => by rw [List.flatMap_nil, List.nil_append, lexicalBody]
  | c :: s, r => by
    rw [List.flatMap_cons, List.append_assoc, lexicalBody_escapeLexical, lexicalBody_escape s r]
    rfl

theorem beforeClose?_append (s : List Char) : beforeClose? (s ++ ['>']) = some s := by
  simp [beforeClose?]

theorem Qualifier.ofChars?_chars (q : Qualifier) : Qualifier.ofChars? q.chars = some q := by
  cases q with
  | plain => rfl
  | datatype iri => simp [Qualifier.chars, Qualifier.ofChars?, beforeClose?_append]
  | language tag => simp [Qualifier.chars, Qualifier.ofChars?]

theorem Literal.ofTerm?_term (l : Literal) : Literal.ofTerm? l.term = some l := by
  simp [Literal.term, Literal.ofTerm?, lexicalBody_escape, Qualifier.ofChars?_chars]

namespace Node

/-- **A node is read back from its term.** -/
theorem ofTerm_term (n : Node) : Node.ofTerm n.term = .ok n := by
  cases n with
  | uri iri => simp [term, ofTerm, beforeClose?_append]
  | literal l =>
    have hl : Literal.ofTerm l.term = .ok l := by rw [Literal.ofTerm, Literal.ofTerm?_term]
    show (Literal.ofTerm l.term).map Node.literal = .ok (.literal l)
    rw [hl]
    rfl
  | blank label => simp [term, ofTerm]
  | any => rfl

theorem term_injective {n m : Node} (h : n.term = m.term) : n = m := by
  have hn := ofTerm_term n
  rw [h, ofTerm_term m] at hn
  cases hn
  rfl

end Node

end Clearance
