import CatalogSearch.Engine.Query
import CatalogSearch.Text.Pattern

/-!
# Characters of query texts

Reading a query text from left to right, one knows how many brackets are open, whether
one is between quotes, and whether the last character was an escaping backslash. A blank or
a parenthesis counts as one only where nothing is open.

- `Clause.Lex`: what is open; `Lex.step` and `Lex.scan` read a character and a text.
- `Clause.IsClosed`: texts that leave open what was open, and nothing else.
- `Clause.IsLeaf`: the texts of clauses that are not made of clauses.
-/

namespace CatalogSearch

namespace Clause

/-! ## Reading characters -/

/-- What is open between two characters of a query text. -/
structure Lex where
  /-- How many brackets. -/
  depth : Nat := 0
  /-- A quoted text. -/
  quoted : Bool := false
  /-- An escape, which takes the next character. -/
  escaped : Bool := false
  deriving DecidableEq

namespace Lex

/-- What is open after one more character; a blank or a parenthesis cannot be read where
nothing is open. -/
def step (q : Lex) (c : Char) : Option Lex :=
  if q.escaped then some { q with escaped := false }
  else if c = '\\' then some { q with escaped := true }
  else if c = '"' then some { q with quoted := !q.quoted }
  else if q.quoted then some q
  else if c ∈ ['[', '\x7b'] then some { q with depth := q.depth + 1 }
  else if c ∈ [']', '\x7d'] then some { q with depth := q.depth - 1 }
  else if c ∈ [' ', '(', ')'] ∧ q.depth = 0 then none
  else some q

/-- What is open after a text. -/
def scan (q : Lex) : List Char → Option Lex
  | [] => some q
  | c :: cs => (q.step c).bind fun q' => q'.scan cs

theorem scan_cons (q : Lex) (c : Char) (cs : List Char) :
    q.scan (c :: cs) = (q.step c).bind fun q' => q'.scan cs := rfl

theorem scan_append (q : Lex) (cs ds : List Char) :
    q.scan (cs ++ ds) = (q.scan cs).bind fun q' => q'.scan ds := by
  induction cs generalizing q with
  | nil => rfl
  | cons c cs ih =>
    rw [List.cons_append, scan_cons, scan_cons, Option.bind_assoc]
    exact congrArg (q.step c).bind (funext fun q' => ih q')

end Lex

/-! ## Plain characters -/

/-- The characters that open or close something, or that nothing may leave open. -/
def special : List Char :=
  ['\\', '"', '[', ']', '\x7b', '\x7d', ' ', '(', ')']

/-- No character of the text is special. -/
def IsPlain (cs : List Char) : Prop := ∀ c ∈ cs, c ∉ special

instance (cs : List Char) : Decidable (IsPlain cs) :=
  List.decidableBAll (· ∉ special) cs

/-- A text of one class of characters is plain if no special one is in the class. -/
theorem isPlain_of_class {p : Char → Bool} (hp : special.all (fun c => !p c) = true)
    {cs : List Char} (h : ∀ c ∈ cs, p c = true) : IsPlain cs := by
  intro c hc hspecial
  have hout := List.all_eq_true.mp hp c hspecial
  rw [h c hc] at hout
  cases hout

theorem IsPlain.append {cs ds : List Char} (hc : IsPlain cs) (hd : IsPlain ds) :
    IsPlain (cs ++ ds) := by
  intro c hmem
  rcases List.mem_append.mp hmem with hmem | hmem
  · exact hc c hmem
  · exact hd c hmem

theorem IsPlain.text_append {s s' : String} (h : IsPlain s.toList) (h' : IsPlain s'.toList) :
    IsPlain (s ++ s').toList := by
  rw [String.toList_append]
  exact h.append h'

theorem IsPlain.cons {c : Char} {cs : List Char} (hc : c ∉ special) (hcs : IsPlain cs) :
    IsPlain (c :: cs) := by
  intro d hmem
  rcases List.mem_cons.mp hmem with rfl | hmem
  · exact hc
  · exact hcs d hmem

/-- A character other than the special ones changes nothing, unless it is escaped. -/
theorem Lex.step_of_not_special {q : Lex} (hq : q.escaped = false) {c : Char}
    (hc : c ∉ special) : q.step c = some q := by
  simp only [special, List.mem_cons, List.not_mem_nil, or_false, not_or] at hc
  obtain ⟨h₁, h₂, h₃, h₄, h₅, h₆, h₇, h₈, h₉⟩ := hc
  simp [Lex.step, *]

/-! ## Closed texts -/

/-- The text can be read at every depth of brackets, and leaves nothing else open. -/
def IsClosed (cs : List Char) : Prop :=
  ∀ depth, Lex.scan { depth } cs = some { depth }

/-- The same, but only within brackets. -/
def IsBody (cs : List Char) : Prop :=
  ∀ depth, Lex.scan { depth := depth + 1 } cs = some { depth := depth + 1 }

theorem IsClosed.nil : IsClosed [] := fun _ => rfl

theorem IsClosed.append {cs ds : List Char} (hc : IsClosed cs) (hd : IsClosed ds) :
    IsClosed (cs ++ ds) := by
  intro depth
  rw [Lex.scan_append, hc depth]
  exact hd depth

theorem IsClosed.isBody {cs : List Char} (h : IsClosed cs) : IsBody cs :=
  fun depth => h (depth + 1)

theorem IsBody.append {cs ds : List Char} (hc : IsBody cs) (hd : IsBody ds) :
    IsBody (cs ++ ds) := by
  intro depth
  rw [Lex.scan_append, hc depth]
  exact hd depth

/-- A plain text changes nothing, whatever is open. -/
theorem IsPlain.scan {cs : List Char} (h : IsPlain cs) {q : Lex} (hq : q.escaped = false) :
    q.scan cs = some q := by
  induction cs with
  | nil => rfl
  | cons c cs ih =>
    rw [Lex.scan_cons, Lex.step_of_not_special hq (h c (List.mem_cons_self ..))]
    exact ih fun d hd => h d (List.mem_cons_of_mem c hd)

theorem IsPlain.isClosed {cs : List Char} (h : IsPlain cs) : IsClosed cs :=
  fun _ => h.scan rfl

/-- Within brackets a blank is read like any other character. -/
theorem isBody_of_blank_or_not_special {cs : List Char}
    (h : cs.all (fun c => c = ' ' ∨ c ∉ special) = true) : IsBody cs := by
  intro depth
  simp only [List.all_eq_true, decide_eq_true_eq] at h
  induction cs with
  | nil => rfl
  | cons c cs ih =>
    have hstep : Lex.step { depth := depth + 1 } c = some { depth := depth + 1 } := by
      rcases h c (List.mem_cons_self ..) with rfl | hc
      · simp [Lex.step]
      · exact Lex.step_of_not_special rfl hc
    rw [Lex.scan_cons, hstep]
    exact ih fun d hd => h d (List.mem_cons_of_mem c hd)

/-- Brackets around a body; a bracket of one kind may close one of the other. -/
theorem IsBody.isClosed {cs : List Char} (h : IsBody cs) {opening closing : Char}
    (ho : opening = '[' ∨ opening = '\x7b') (hc : closing = ']' ∨ closing = '\x7d') :
    IsClosed (opening :: (cs ++ [closing])) := by
  intro depth
  have hopen : Lex.step { depth } opening = some { depth := depth + 1 } := by
    rcases ho with rfl | rfl <;> rfl
  have hclose : Lex.scan { depth := depth + 1 } [closing] = some { depth } := by
    rcases hc with rfl | rfl <;> rfl
  rw [Lex.scan_cons, hopen]
  show Lex.scan _ (cs ++ [closing]) = _
  rw [Lex.scan_append, h depth]
  exact hclose

/-! ## Operands -/

/-- No operand ends the quotes around it. -/
theorem scan_escapeChars (depth : Nat) (cs : List Char) :
    Lex.scan { depth, quoted := true } (Text.escapeChars cs) =
      some { depth, quoted := true } := by
  induction cs with
  | nil => rfl
  | cons c cs ih =>
    have hchar : Lex.scan { depth, quoted := true } (Text.escapeChar c) =
        some { depth, quoted := true } := by
      unfold Text.escapeChar
      by_cases hc : c = '\\' ∨ c = '"'
      · rw [if_pos hc]
        rfl
      · rw [if_neg hc]
        rw [not_or] at hc
        simp [Lex.scan, Lex.step, hc]
    show Lex.scan _ (Text.escapeChar c ++ Text.escapeChars cs) = _
    rw [Lex.scan_append, hchar]
    exact ih

/-- Quotes around text that does not end them. -/
theorem isClosed_quotes {cs : List Char}
    (h : ∀ depth, Lex.scan { depth, quoted := true } cs = some { depth, quoted := true }) :
    IsClosed ('"' :: (cs ++ ['"'])) := by
  intro depth
  show Lex.scan { depth, quoted := true } (cs ++ ['"']) = _
  rw [Lex.scan_append, h depth]
  rfl

theorem isClosed_quote (s : String) : IsClosed (Text.quote s).toList := by
  have hchars : (Text.quote s).toList = '"' :: (Text.escapeChars s.toList ++ ['"']) := by
    simp [Text.quote, Text.escape]
  rw [hchars]
  exact isClosed_quotes fun depth => scan_escapeChars depth s.toList

/-- A special character is reserved or blank, so a bare pattern has none that is not escaped. -/
theorem reserved_or_isBlank {c : Char} (h : c ∈ special) :
    c ∈ Text.reserved ∨ Text.isBlank c = true := by
  have hall : special.all (fun c => c ∈ Text.reserved ∨ Text.isBlank c = true) = true := by decide
  exact of_decide_eq_true (List.all_eq_true.mp hall c h)

theorem isClosed_bareChar {c : Char} (h : Text.isBlank c = false) :
    IsClosed (Text.bareChar c) := by
  unfold Text.bareChar
  by_cases hres : c ∈ Text.reserved
  · rw [if_pos hres]
    intro depth
    rfl
  · rw [if_neg hres]
    have hplain : c ∉ special := by
      intro hspecial
      rcases reserved_or_isBlank hspecial with hres' | hblank
      · exact hres hres'
      · rw [h] at hblank
        cases hblank
    exact (IsPlain.cons hplain (List.forall_mem_nil _)).isClosed

theorem isClosed_bare {s : String} (h : Text.hasBlank s = false) :
    IsClosed (Text.bare s).toList := by
  unfold Text.hasBlank at h
  unfold Text.bare
  rw [String.toList_ofList]
  generalize s.toList = cs at h ⊢
  induction cs with
  | nil => exact IsClosed.nil
  | cons c cs ih =>
    rw [List.any_cons, Bool.or_eq_false_iff] at h
    rw [List.flatMap_cons]
    exact (isClosed_bareChar h.1).append (ih h.2)

theorem isClosed_term (s : String) : IsClosed (Text.term s).toList := by
  unfold Text.term
  cases hblank : Text.hasBlank s with
  | true => exact isClosed_quote s
  | false => exact isClosed_bare hblank

/-! ## Leaves -/

/-- The text of a clause that is not made of clauses: nothing stays open, and it is not one of
the two words for all records and none. -/
structure IsLeaf (cs : List Char) : Prop where
  nonempty : cs ≠ []
  notAll : cs ≠ matchAll.toList
  notNone : cs ≠ matchNone.toList
  closed : Lex.scan {} cs = some {}

end Clause

end CatalogSearch
