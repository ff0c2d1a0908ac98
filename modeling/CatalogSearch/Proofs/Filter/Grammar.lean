import CatalogSearch.Proofs.Filter.Lexing

/-!
# The grammar of query texts

A clause is one of the two words for all records and none, a negation, a group of two clauses
or more with the same word between them, or a leaf.

- `Clause.Tree`: what a clause is made of.
- `Clause.Reads`: a text read as a clause.
- `Clause.Reads.unique`: a text is read in one way at most.
-/

namespace CatalogSearch

namespace Clause

/-! ## Trees -/

/-- What the clauses of a group are joined by. -/
inductive Junction where
  | conjunction
  | disjunction
  deriving DecidableEq

/-- The word between the clauses of a group. -/
def Junction.word : Junction → String
  | conjunction => "AND"
  | disjunction => "OR"

/-- What a clause is made of. -/
inductive Tree where
  | everything
  | nothing
  | negation (t : Tree)
  | group (j : Junction) (members : List Tree)
  | leaf (text : String)

/-- A further clause of a group, with the word before it. -/
def Junction.next (j : Junction) (cs : List Char) : List Char :=
  ' ' :: (j.word.toList ++ ' ' :: cs)

/-- The text is read as the clause. -/
inductive Reads : List Char → Tree → Prop where
  | everything : Reads matchAll.toList .everything
  | nothing : Reads matchNone.toList .nothing
  | negation {cs t} (h : Reads cs t) :
    Reads ('(' :: (matchAll.toList ++ ' ' :: '-' :: (cs ++ [')']))) (.negation t)
  | group (j : Junction) {cs t} {rest : List (List Char × Tree)} (hfirst : Reads cs t)
    (hrest : ∀ m ∈ rest, Reads m.1 m.2) (hne : rest ≠ []) :
    Reads ('(' :: (cs ++ (rest.flatMap (fun m => j.next m.1) ++ [')'])))
      (.group j (t :: rest.map (·.2)))
  | leaf {s : String} (h : IsLeaf s.toList) : Reads s.toList (.leaf s)

/-! ## Where a clause ends -/

/-- What may come after a clause: nothing, a blank or a closing parenthesis. -/
def Stops (r : List Char) : Prop :=
  ∀ c ∈ r.head?, c = ' ' ∨ c = ')'

theorem stops_nil : Stops [] := fun _ h => nomatch h

theorem stops_blank (r : List Char) : Stops (' ' :: r) := by
  rintro c ⟨⟩
  exact .inl rfl

theorem stops_parenthesis (r : List Char) : Stops (')' :: r) := by
  rintro c ⟨⟩
  exact .inr rfl

theorem stops_members (j : Junction) (rest : List (List Char × Tree)) (r : List Char) :
    Stops (rest.flatMap (fun m => j.next m.1) ++ ')' :: r) := by
  cases rest with
  | nil => exact stops_parenthesis r
  | cons m rest => exact stops_blank _

/-- A text that leaves nothing open cannot be read on over its end. -/
theorem append_nil_of_scan {cs ds r : List Char} (hc : Lex.scan {} cs = some {})
    (hd : Lex.scan {} (cs ++ ds) = some {}) (hstop : Stops (ds ++ r)) : ds = [] := by
  cases ds with
  | nil => rfl
  | cons d ds =>
    rw [Lex.scan_append, hc] at hd
    rcases hstop d rfl with rfl | rfl
    · cases hd
    · cases hd

theorem eq_of_scan {cs ds r r' : List Char} (hc : Lex.scan {} cs = some {})
    (hd : Lex.scan {} ds = some {}) (heq : cs ++ r = ds ++ r') (hr : Stops r) (hr' : Stops r') :
    cs = ds := by
  -- one of the two reaches as far as the other, or further
  rcases List.append_eq_append_iff.mp heq with ⟨more, rfl, rfl⟩ | ⟨more, rfl, rfl⟩
  · rw [append_nil_of_scan hc hd hr, List.append_nil]
  · rw [append_nil_of_scan hd hc hr', List.append_nil]

/-! ## Atoms -/

/-- What a text without parentheses around it is read as. -/
def atom (cs : List Char) : Tree :=
  if cs = matchAll.toList then .everything
  else if cs = matchNone.toList then .nothing
  else .leaf (String.ofList cs)

theorem IsLeaf.atom_eq {s : String} (h : IsLeaf s.toList) : atom s.toList = .leaf s := by
  unfold atom
  rw [if_neg h.notAll, if_neg h.notNone, String.ofList_toList]

namespace Reads

variable {cs ds r r' : List Char} {t t' : Tree}

/-- A clause is in parentheses, or it is an atom. -/
theorem parenthesis_or_atom (h : Reads cs t) :
    (∃ body, cs = '(' :: body) ∨ cs ≠ [] ∧ Lex.scan {} cs = some {} ∧ t = atom cs := by
  cases h with
  | everything => exact .inr ⟨by decide, rfl, rfl⟩
  | nothing => exact .inr ⟨by decide, rfl, rfl⟩
  | negation _ => exact .inl ⟨_, rfl⟩
  | group _ _ _ _ => exact .inl ⟨_, rfl⟩
  | leaf hleaf => exact .inr ⟨hleaf.nonempty, hleaf.closed, hleaf.atom_eq.symm⟩

/-- An atom does not start with a parenthesis. -/
theorem head_of_scan (hne : cs ≠ []) (hscan : Lex.scan {} cs = some {}) {body : List Char} :
    cs ++ r ≠ '(' :: body := by
  intro heq
  cases cs with
  | nil => exact hne rfl
  | cons c cs =>
    obtain rfl := (List.cons.inj heq).1
    cases hscan

/-- Of two clauses that begin a text, an atom is read the same as the other one. -/
theorem eq_of_atom (hne : cs ≠ []) (hscan : Lex.scan {} cs = some {}) (h' : Reads ds t')
    (heq : cs ++ r = ds ++ r') (hr : Stops r) (hr' : Stops r') : cs = ds ∧ t' = atom cs := by
  rcases h'.parenthesis_or_atom with ⟨body, rfl⟩ | ⟨-, hscan', rfl⟩
  · exact absurd heq (head_of_scan hne hscan)
  · obtain rfl := eq_of_scan hscan hscan' heq hr hr'
    exact ⟨rfl, rfl⟩

/-! ## One reading -/

/-- A negation goes on with a minus where a group goes on with a word. -/
theorem negation_ne_group (j : Junction) {rest : List (List Char × Tree)} (h : Reads cs t)
    (hne : rest ≠ []) (body : List Char) :
    matchAll.toList ++ ' ' :: '-' :: body ≠
      cs ++ (rest.flatMap (fun m => j.next m.1) ++ ')' :: r) := by
  intro heq
  -- the first member of the group would be the word for all records
  have hall : cs = matchAll.toList := by
    have hatom : Lex.scan {} matchAll.toList = some {} := rfl
    exact (eq_of_atom (by decide) hatom h heq (stops_blank _) (stops_members j rest r)).1.symm
  rw [hall] at heq
  have hword := List.append_cancel_left heq
  cases rest with
  | nil => exact hne rfl
  | cons m rest =>
    cases j with
    | conjunction => cases hword
    | disjunction => cases hword

/-- The words of two members tell them apart. -/
theorem next_inj {j j' : Junction} (heq : j.next cs ++ r = j'.next ds ++ r') :
    j = j' ∧ cs ++ r = ds ++ r' := by
  have hword : j.word.toList ++ ' ' :: (cs ++ r) = j'.word.toList ++ ' ' :: (ds ++ r') := by
    simpa only [Junction.next, List.cons_append, List.append_assoc, List.cons.injEq,
      true_and] using heq
  have hj : j = j' := by
    cases j with
    | conjunction =>
      cases j' with
      | conjunction => rfl
      | disjunction => cases hword
    | disjunction =>
      cases j' with
      | conjunction => cases hword
      | disjunction => rfl
  subst hj
  exact ⟨rfl, (List.cons.inj (List.append_cancel_left hword)).2⟩

end Reads

/-- The text starts with one clause at most, whatever comes after it. -/
def Determined (cs : List Char) (t : Tree) : Prop :=
  ∀ ds t' r r', Reads ds t' → cs ++ r = ds ++ r' → Stops r → Stops r' → cs = ds ∧ t = t'

/-- The further members of a group are determined one after the other. -/
theorem members_determined {j j' : Junction} {rest rest' : List (List Char × Tree)}
    {r r' : List Char} (hrest : ∀ m ∈ rest, Determined m.1 m.2)
    (hrest' : ∀ m ∈ rest', Reads m.1 m.2)
    (heq : rest.flatMap (fun m => j.next m.1) ++ ')' :: r =
      rest'.flatMap (fun m => j'.next m.1) ++ ')' :: r') :
    rest = rest' ∧ (rest ≠ [] → j = j') := by
  induction rest generalizing rest' with
  | nil =>
    cases rest' with
    | nil => exact ⟨rfl, fun hne => absurd rfl hne⟩
    | cons m' rest' => cases heq
  | cons m rest ih =>
    cases rest' with
    | nil => cases heq
    | cons m' rest' =>
      rw [List.flatMap_cons, List.flatMap_cons, List.append_assoc, List.append_assoc] at heq
      obtain ⟨rfl, hmembers⟩ := Reads.next_inj heq
      have hm : m = m' := by
        have hread := hrest' m' (List.mem_cons_self ..)
        have hstop := stops_members j rest r
        have hstop' := stops_members j rest' r'
        obtain ⟨htext, htree⟩ :=
          hrest m (List.mem_cons_self ..) _ _ _ _ hread hmembers hstop hstop'
        exact Prod.ext htext htree
      subst hm
      have htail := ih (fun m hm => hrest m (List.mem_cons_of_mem _ hm))
        (fun m hm => hrest' m (List.mem_cons_of_mem _ hm)) (List.append_cancel_left hmembers)
      exact ⟨congrArg (m :: ·) htail.1, fun _ => rfl⟩

/-- Two clauses that begin the same text, and end where a clause may end, are the same. -/
theorem Reads.determined {cs : List Char} {t : Tree} (h : Reads cs t) : Determined cs t := by
  -- what follows the clause is left open, since a clause within another one is followed by it
  induction h with
  | everything =>
    intro ds t' r r' h' heq hr hr'
    exact (eq_of_atom (by decide) rfl h' heq hr hr').imp_right Eq.symm
  | nothing =>
    intro ds t' r r' h' heq hr hr'
    exact (eq_of_atom (by decide) rfl h' heq hr hr').imp_right Eq.symm
  | leaf hleaf =>
    intro ds t' r r' h' heq hr hr'
    obtain ⟨htext, rfl⟩ := eq_of_atom hleaf.nonempty hleaf.closed h' heq hr hr'
    exact ⟨htext, hleaf.atom_eq.symm⟩
  | @negation cs t _ ih =>
    intro ds t' r r' h' heq hr hr'
    cases h' with
    | everything => cases heq
    | nothing => cases heq
    | leaf hleaf => exact absurd heq.symm (head_of_scan hleaf.nonempty hleaf.closed)
    | @negation cs' t' h' =>
      -- the closing parenthesis is where the negated clause stops, so the induction applies to it
      have hbody : cs ++ ([')'] ++ r) = cs' ++ ([')'] ++ r') := by
        simpa using heq
      obtain ⟨rfl, rfl⟩ :=
        ih _ _ _ _ h' hbody (stops_parenthesis r) (stops_parenthesis r')
      exact ⟨rfl, rfl⟩
    | @group j cs' t' rest' hfirst' _ hne' =>
      simp only [List.append_assoc, List.cons_append, List.nil_append, List.cons.injEq,
        true_and] at heq
      exact absurd heq (negation_ne_group j hfirst' hne' _)
  | @group j cs t rest hfirst _ hne ih ihrest =>
    intro ds t' r r' h' heq hr hr'
    cases h' with
    | everything => cases heq
    | nothing => cases heq
    | leaf hleaf => exact absurd heq.symm (head_of_scan hleaf.nonempty hleaf.closed)
    | @negation cs' t' h' =>
      simp only [List.append_assoc, List.cons_append, List.nil_append, List.cons.injEq,
        true_and] at heq
      exact absurd heq.symm (negation_ne_group j hfirst hne _)
    | @group j' cs' t' rest' hfirst' hrest' hne' =>
      simp only [List.append_assoc, List.cons_append, List.nil_append, List.cons.injEq,
        true_and] at heq
      -- the first members agree, then the others one after the other
      obtain ⟨rfl, rfl⟩ :=
        ih _ _ _ _ hfirst' heq (stops_members j rest r) (stops_members j' rest' r')
      obtain ⟨rfl, hj⟩ :=
        members_determined ihrest hrest' (List.append_cancel_left heq)
      obtain rfl := hj hne
      exact ⟨rfl, rfl⟩

/-- A text is read in one way at most. -/
theorem Reads.unique {cs : List Char} {t t' : Tree} (h : Reads cs t) (h' : Reads cs t') :
    t = t' :=
  (h.determined cs t' [] [] h' rfl stops_nil stops_nil).2

end Clause

end CatalogSearch
