import Clearance.Proofs.AttributeSet.Text
import Clearance.Proofs.Running
import Clearance.Roster
import Mathlib.Data.List.Forall2

/-!
# Declared users

What a declaration says of a user depends on the texts of the user only through the set that they
declare, and this set is held by the user in the roster, if the declaration is accepted. The set of
several texts has what they list, one text after the other; so the texts may as well be written as
one, with a line end and a comma between them. The line end is there for a comment, which would
otherwise run on over the comma and the next text. A text that lists nothing can stand beside
others, but not behind a comma.

## Main results

* `Clearance.Roster.declare_congr` — users count by the sets that their texts declare.
* `Clearance.Roster.exists_getElem?_users_of_declare` — a user holds the set of the declared texts.
* `Clearance.Roster.attributesOf_intercalate` — texts that are written as one declare the same set.
* `Clearance.Roster.joined_texts_declare_alike`
-/

namespace Clearance

open AttributeSet

namespace Roster

variable {user : String} {texts : List String}
  {users users' before after : List (String × List String)}
  {hierarchies : List String} {r r' : Roster}

/-! ### Users by their sets -/

/-- The texts of every user. Of two declarations the later one counts. -/
def textsByUser (users : List (String × List String)) : Std.ExtTreeMap String (List String) :=
  users.foldl (fun m u => m.insert u.1 u.2) ∅

theorem map_insert {m : Std.ExtTreeMap String (List String)}
    {f : List String → Except TextFault AttributeSet} :
    (m.insert user texts).map (fun _ => f) = (m.map fun _ => f).insert user (f texts) := by
  refine Std.ExtTreeMap.ext_getElem? fun u => ?_
  simp only [Std.ExtTreeMap.getElem?_map, Std.ExtTreeMap.getElem?_insert]
  split <;> rfl

theorem map_textsByUser : (textsByUser users).map (fun _ => attributesOf) =
    (users.map fun u => (u.1, attributesOf u.2)).foldl (fun m u => m.insert u.1 u.2) ∅ := by
  induction users using List.reverseRecOn with
  | nil => rfl
  | append_singleton users u ih =>
    rw [textsByUser, List.foldl_append, ← textsByUser, List.map_append, List.foldl_append, ← ih]
    exact map_insert

theorem declare_eq : declare users hierarchies =
    (textsByUser users).toList.foldlM declareUser {} >>= hierarchies.foldlM declareHierarchy := rfl

/-- **Users count by the sets that their texts declare**, or by the faults of these texts. -/
theorem declare_congr (h : (users.map fun u => (u.1, attributesOf u.2)) =
    users'.map fun u => (u.1, attributesOf u.2)) :
    declare users hierarchies = declare users' hierarchies := by
  have hread (m : Std.ExtTreeMap String (List String)) : m.toList.foldlM declareUser {} =
      (m.map fun _ => attributesOf).toList.foldlM
        (fun r u => return r.put u.1 (← u.2.mapError Error.malformed)) ({} : Roster) := by
    rw [Std.ExtTreeMap.toList_map, List.foldlM_map]
    rfl
  rw [declare_eq, declare_eq, hread, hread, map_textsByUser, map_textsByUser, h]

/-! ### The sets of users -/

theorem declareUser_eq_ok {u : String × List String} :
    r.declareUser u = .ok r' ↔ ∃ S, attributesOf u.2 = .ok S ∧ r.put u.1 S = r' := by
  rw [declareUser, bind_eq_ok]
  simp only [mapError_eq_ok, pure, Except.pure, Except.ok.injEq]

theorem getElem?_users_put {u : String} {S : AttributeSet} :
    (r.put u S).users[user]? = if u = user then some S else r.users[user]? := by
  simp [put, Std.ExtTreeMap.getElem?_insert]

/-- Other users keep their sets. -/
theorem getElem?_users_of_declareUsers (h : users.foldlM declareUser r = .ok r')
    (hne : ∀ u ∈ users, u.1 ≠ user) : r'.users[user]? = r.users[user]? := by
  induction users generalizing r with
  | nil => rw [Except.ok.inj h]
  | cons u users ih =>
    obtain ⟨hu, hne⟩ := List.forall_mem_cons.1 hne
    rw [List.foldlM_cons] at h
    obtain ⟨r₁, hfirst, h⟩ := bind_eq_ok.1 h
    obtain ⟨S, -, rfl⟩ := declareUser_eq_ok.1 hfirst
    rw [ih h hne, getElem?_users_put, if_neg hu]

/-- A user who is declared once holds the set of the declared texts. -/
theorem exists_getElem?_users_of_declareUsers (h : users.foldlM declareUser r = .ok r')
    (hdistinct : users.Pairwise fun u v => u.1 ≠ v.1) (hmem : (user, texts) ∈ users) :
    ∃ S, attributesOf texts = .ok S ∧ r'.users[user]? = some S := by
  induction users generalizing r with
  | nil => cases hmem
  | cons u users ih =>
    obtain ⟨hu, hdistinct⟩ := List.pairwise_cons.1 hdistinct
    rw [List.foldlM_cons] at h
    obtain ⟨r₁, hfirst, h⟩ := bind_eq_ok.1 h
    rcases List.mem_cons.1 hmem with rfl | hmem
    · obtain ⟨S, hS, rfl⟩ := declareUser_eq_ok.1 hfirst
      refine ⟨S, hS, ?_⟩
      rw [getElem?_users_of_declareUsers h fun v hv => (hu v hv).symm, getElem?_users_put,
        if_pos rfl]
    · exact ih h hdistinct hmem

theorem users_of_declareHierarchies (h : hierarchies.foldlM declareHierarchy r = .ok r') :
    r'.users = r.users := by
  induction hierarchies generalizing r with
  | nil => rw [Except.ok.inj h]
  | cons text hierarchies ih =>
    rw [List.foldlM_cons] at h
    obtain ⟨r₁, hfirst, h⟩ := bind_eq_ok.1 h
    obtain ⟨d, -, hd⟩ := bind_eq_ok.1 hfirst
    rw [ih h, ← Except.ok.inj hd]
    rfl

theorem getElem?_textsByUser (hafter : ∀ u ∈ after, u.1 ≠ user) :
    (textsByUser (before ++ (user, texts) :: after))[user]? = some texts := by
  rw [textsByUser, List.foldl_append, List.foldl_cons]
  induction after using List.reverseRecOn with
  | nil => simp
  | append_singleton after u ih =>
    obtain ⟨hafter, hu⟩ := List.forall_mem_append.1 hafter
    have hne : u.1 ≠ user := hu u (List.mem_singleton.2 rfl)
    rw [List.foldl_append, List.foldl_cons, List.foldl_nil, Std.ExtTreeMap.getElem?_insert,
      if_neg (by simpa using hne), ih hafter]

/-- **A user holds the set of the declared texts**, if the declaration is accepted. -/
theorem exists_getElem?_users_of_declare (h : declare users hierarchies = .ok r)
    (hu : (textsByUser users)[user]? = some texts) :
    ∃ S, attributesOf texts = .ok S ∧ r.users[user]? = some S := by
  have hmem : (user, texts) ∈ (textsByUser users).toList :=
    Std.ExtTreeMap.mem_toList_iff_getElem?_eq_some.2 hu
  have hdistinct : (textsByUser users).toList.Pairwise fun u v => u.1 ≠ v.1 :=
    Std.ExtTreeMap.distinct_keys_toList.imp fun hne heq =>
      hne (by rw [heq]; exact Std.ReflCmp.compare_self)
  obtain ⟨r₁, husers, h⟩ := bind_eq_ok.1 (declare_eq ▸ h)
  rw [users_of_declareHierarchies h]
  exact exists_getElem?_users_of_declareUsers husers hdistinct hmem

/-! ### Texts that are written as one -/

variable {ls : List (List (Attribute × Value))}

theorem foldlM_merge (h : List.Forall₂ (fun t l => parsePairs t.toList = .ok l) texts ls)
    (ps : List (Attribute × Value)) :
    texts.foldlM (fun s t => return s.merge (← AttributeSet.parse t.toList)) (ofPairs ps) =
      (.ok (ofPairs (ps ++ ls.flatten)) : Except TextFault AttributeSet) := by
  induction h generalizing ps with
  | nil =>
    rw [List.flatten_nil, List.append_nil]
    rfl
  | @cons t l texts ls ht h ih =>
    rw [List.flatten_cons, ← List.append_assoc, ← ih (ps ++ l), ofPairs_append,
      List.foldlM_cons, parse_eq_ok_iff.2 ⟨l, ht, rfl⟩]
    rfl

/-- **The set of several texts has what they list**, one text after the other. -/
theorem attributesOf_eq_ok (h : List.Forall₂ (fun t l => parsePairs t.toList = .ok l) texts ls) :
    attributesOf texts = .ok (ofPairs ls.flatten) := foldlM_merge h []

/-- Texts that each list something list it together, if they are written as one. -/
theorem parsePairs_intercalate
    (h : List.Forall₂ (fun t l => parsePairs t.toList = .ok l ∧ l ≠ []) texts ls) :
    parsePairs ("\n,".intercalate texts).toList = .ok ls.flatten := by
  induction h with
  | nil => rfl
  | @cons t l texts ls ht h ih =>
    cases h with
    | nil => rw [String.intercalate_singleton, List.flatten_singleton, ht.1]
    | @cons t' l' texts ls ht' h =>
      have hrest : (l' :: ls).flatten ≠ [] := by
        rw [List.flatten_cons]
        exact List.append_ne_nil_of_left_ne_nil ht'.2 _
      have hjoin : ("\n,".intercalate (t :: t' :: texts)).toList =
          t.toList ++ '\n' :: ',' :: ("\n,".intercalate (t' :: texts)).toList := by
        rw [String.intercalate_cons_cons, String.toList_append, String.toList_append,
          List.append_assoc]
        rfl
      rw [hjoin, List.flatten_cons]
      exact parsePairs_join ht.1 ht.2 ih hrest

/-- **Texts that each list something declare the same set if they are written as one.** -/
theorem attributesOf_intercalate
    (h : List.Forall₂ (fun t l => parsePairs t.toList = .ok l ∧ l ≠ []) texts ls) :
    attributesOf ["\n,".intercalate texts] = attributesOf texts := by
  rw [attributesOf_eq_ok (h.imp fun _ _ h => h.1),
    attributesOf_eq_ok (.cons (parsePairs_intercalate h) .nil), List.flatten_singleton]

/-- **How the texts of a user are split does not matter.** Two texts that each list something list
it together, with a line end and a comma between them, and the set is that of the first text with
that of the second merged into it. So a user who is declared by several such texts holds what they
list, one after the other; the declaration is accepted or refused, and the roster is the same, as if
the texts of the user were written as one. -/
theorem joined_texts_declare_alike :
    (∀ (s t : List Char) (l m : List (Attribute × Value)),
      parsePairs s = .ok l → l ≠ [] → parsePairs t = .ok m → m ≠ [] →
      parsePairs (s ++ '\n' :: ',' :: t) = .ok (l ++ m) ∧
      ∃ S T, AttributeSet.parse s = .ok S ∧ AttributeSet.parse t = .ok T ∧
        AttributeSet.parse (s ++ '\n' :: ',' :: t) = .ok (S.merge T)) ∧
    ∀ (texts : List String) (ls : List (List (Attribute × Value))),
      List.Forall₂ (fun t l => parsePairs t.toList = .ok l ∧ l ≠ []) texts ls →
      attributesOf texts = .ok (ofPairs ls.flatten) ∧
      attributesOf ["\n,".intercalate texts] = .ok (ofPairs ls.flatten) ∧
      ∀ (json json' user : String) (before after : List (String × List String))
        (hierarchies : List String),
        (Json.parse json.toList).bind declared? =
          some (before ++ (user, texts) :: after, hierarchies) →
        (Json.parse json'.toList).bind declared? =
          some (before ++ (user, ["\n,".intercalate texts]) :: after, hierarchies) →
        Roster.parse json' = Roster.parse json ∧
        ∀ r, Roster.parse json = .ok r → (∀ u ∈ after, u.1 ≠ user) →
          r.source.attributes? user = some (ofPairs ls.flatten) := by
  refine ⟨fun s t l m hs hl ht hm => ?_, fun texts ls h => ?_⟩
  · have hjoin := parsePairs_join hs hl ht hm
    exact ⟨hjoin, ofPairs l, ofPairs m, parse_eq_ok_iff.2 ⟨l, hs, rfl⟩,
      parse_eq_ok_iff.2 ⟨m, ht, rfl⟩, parse_eq_ok_iff.2 ⟨l ++ m, hjoin, ofPairs_append⟩⟩
  · have hset := attributesOf_eq_ok (h.imp fun _ _ h => h.1)
    refine ⟨hset, (attributesOf_intercalate h).trans hset,
      fun json json' user before after hierarchies hjson hjson' => ?_⟩
    have hparse : Roster.parse json = declare (before ++ (user, texts) :: after) hierarchies := by
      rw [Roster.parse, hjson]
    have hparse' : Roster.parse json' =
        declare (before ++ (user, ["\n,".intercalate texts]) :: after) hierarchies := by
      rw [Roster.parse, hjson']
    refine ⟨?_, fun r hr hafter => ?_⟩
    · rw [hparse, hparse']
      refine declare_congr ?_
      simp only [List.map_append, List.map_cons, attributesOf_intercalate h]
    · obtain ⟨S, hS, hheld⟩ :=
        exists_getElem?_users_of_declare (hparse ▸ hr) (getElem?_textsByUser hafter)
      rw [Except.ok.inj (hset.symm.trans hS)]
      exact hheld

/-- The first text ends in a comment, and the second one begins with a name alone. -/
theorem joined_texts_declare_alike_comment :
    let texts := ["role = admin # since May", "b, role='team lead'"]
    let l := [("role", .text "admin"), ("b", .flag true), ("role", .text "team lead")]
    let json := "\x7b\"users\": \x7b\"u\": [\"role = admin # since May\", " ++
      "\"b, role='team lead'\"], \"w\": [\"b\"]\x7d\x7d"
    let json' := "\x7b\"users\": \x7b\"u\": [\"role = admin # since May\\n,b, " ++
      "role='team lead'\"], \"w\": [\"b\"]\x7d\x7d"
    parsePairs ("role = admin # since May".toList ++ '\n' :: ',' :: "b, role='team lead'".toList)
        = .ok l ∧
      (Json.parse json.toList).bind declared? = some ([("u", texts), ("w", ["b"])], []) ∧
      (Json.parse json'.toList).bind declared? =
        some ([("u", ["\n,".intercalate texts]), ("w", ["b"])], []) ∧
      Roster.parse json' = Roster.parse json ∧
      ∃ r, Roster.parse json = .ok r ∧ r.source.attributes? "u" = some (ofPairs l) := by
  intro texts l json json'
  have hlists : List.Forall₂ (fun t l => parsePairs t.toList = .ok l ∧ l ≠ []) texts
      [[("role", .text "admin")], [("b", .flag true), ("role", .text "team lead")]] :=
    .cons ⟨rfl, List.cons_ne_nil _ _⟩ (.cons ⟨rfl, List.cons_ne_nil _ _⟩ .nil)
  have hjson : (Json.parse json.toList).bind declared? =
      some ([("u", texts), ("w", ["b"])], []) := by
    decide +kernel
  have hjson' : (Json.parse json'.toList).bind declared? =
      some ([("u", ["\n,".intercalate texts]), ("w", ["b"])], []) := by
    decide +kernel
  have haccepted : (Roster.parse json).isOk = true := by
    rw [Roster.parse, hjson]
    decide +kernel
  have hjoin := (joined_texts_declare_alike.1 "role = admin # since May".toList
    "b, role='team lead'".toList _ _ rfl (List.cons_ne_nil _ _) rfl (List.cons_ne_nil _ _)).1
  obtain ⟨-, -, halike⟩ := joined_texts_declare_alike.2 texts _ hlists
  obtain ⟨hparse, hheld⟩ := halike json json' "u" [] [("w", ["b"])] [] hjson hjson'
  refine ⟨hjoin, hjson, hjson', hparse, ?_⟩
  cases hr : Roster.parse json with
  | error e =>
    rw [hr] at haccepted
    cases haccepted
  | ok r => exact ⟨r, rfl, hheld r hr (by decide)⟩

/-- **A text that lists nothing can stand beside others, but not behind a comma.** -/
theorem blank_text_not_joinable :
    let texts := ["role=admin", " "]
    let json := "\x7b\"users\": \x7b\"u\": [\"role=admin\", \" \"]\x7d\x7d"
    let json' := "\x7b\"users\": \x7b\"u\": [\"role=admin\\n, \"]\x7d\x7d"
    (∀ t ∈ texts, t ≠ "") ∧
      (Json.parse json.toList).bind declared? = some ([("u", texts)], []) ∧
      (Json.parse json'.toList).bind declared? = some ([("u", ["\n,".intercalate texts])], []) ∧
      (∃ r, Roster.parse json = .ok r ∧
        r.source.attributes? "u" = some (ofPairs [("role", .text "admin")])) ∧
      Roster.parse json' = .error (.malformed (.trailing ", ")) := by
  intro texts json json'
  have hjson : (Json.parse json.toList).bind declared? = some ([("u", texts)], []) := by
    decide +kernel
  have hjson' : (Json.parse json'.toList).bind declared? =
      some ([("u", ["\n,".intercalate texts])], []) := by
    decide +kernel
  have haccepted : Roster.parse json =
      .ok (Roster.put {} "u" (ofPairs [("role", .text "admin")])) := by
    rw [Roster.parse, hjson]
    rfl
  have hrefused : Roster.parse json' = .error (.malformed (.trailing ", ")) := by
    have hjoined : "\n,".intercalate texts = "role=admin\n, " := by decide
    rw [Roster.parse, hjson', hjoined]
    rfl
  exact ⟨by decide, hjson, hjson', ⟨_, haccepted, rfl⟩, hrefused⟩

end Roster

end Clearance
