import CatalogSearch.Proofs.Filter.Leaves
import CatalogSearch.Proofs.Identifiers
import CatalogSearch.Proofs.Text.Escapes
import CatalogSearch.Schema.Resource

/-!
# Operands of clauses

What comes after the name of a field is a quoted text, a range, or a bare word. Texts can be read
back from the clauses of their tests. A number is written as it is: where it stands alone, the sign
of a negative one is not escaped, and the query language takes it for a prohibition.

- `Clause.IsOperand`: the texts that the query language reads as one operand.
- `Test.frame`: the clause of a test around its operand.
- `Test.SpoilsOperand`: the tests that are written without one.
- `operands_readBack`: quoted texts, shapes and patterns are read as they were.
- `ClauseWriter.operand_wellFormed_iff`: which tests are written with an operand.
-/

namespace CatalogSearch

open Clause

/-! ## Texts and shapes -/

/-- The relation that a spatial test asks for, with the shape. -/
def Spatial.relation? : Spatial → Option (String × String)
  | intersects wkt => some ("Intersects", wkt)
  | within wkt => some ("IsWithin", wkt)
  | contains wkt => some ("Contains", wkt)
  | disjoint wkt => some ("IsDisjointTo", wkt)
  | _ => none

namespace Spatial

variable {op : Spatial} {name wkt : String}

theorem isVerbatim_of_relation? (h : op.relation? = some (name, wkt)) : Text.IsVerbatim name := by
  cases op <;> cases h <;> decide

/-- The clause of a relation has its name and the escaped shape between quotes. -/
theorem clause_of_relation? (h : op.relation? = some (name, wkt)) (field : String) :
    op.clause field = field ++ ":\"" ++ name ++ "(" ++ Text.escape wkt ++ ")\"" := by
  have hrelation : op.clause field = onField field (relation name wkt) := by
    cases op with
    | intersects wkt => cases h; rfl
    | within wkt => cases h; rfl
    | contains wkt => cases h; rfl
    | disjoint wkt => cases h; rfl
    | pointRadius center meters => cases h
    | nearest center => cases h
  rw [hrelation]
  apply String.toList_inj.mp
  simp [onField, relation]

end Spatial

/-- What is verbatim around a text stays as it is. -/
theorem Text.escape_around {front back : String} (hfront : IsVerbatim front)
    (hback : IsVerbatim back) (s : String) :
    escape (front ++ s ++ back) = front ++ escape s ++ back := by
  apply String.toList_inj.mp
  have hf : escapeChars front.toList = front.toList := escapeChars_of_verbatim hfront
  have hb : escapeChars back.toList = back.toList := escapeChars_of_verbatim hback
  simp only [escapeChars] at hf hb
  simp [escape, escapeChars, hf, hb]

/-- **Operands can be read back.** A quoted text, a shape and a phrase stand between quotes that
they do not end, and are read as they were. A pattern without blanks is read as it was, too, with
just its reserved characters escaped and with its own wildcards. It is a phrase just if it has a
blank, so no two texts and no two patterns are written alike. -/
theorem operands_readBack :
    (∀ s : String, ∃ body, (Literal.text s).term = "\"" ++ body ++ "\"" ∧ Text.Spells body s) ∧
    (∀ (op : Spatial) (name wkt field : String), op.relation? = some (name, wkt) →
      ∃ body, op.clause field = field ++ ":\"" ++ name ++ "(" ++ body ++ ")\"" ∧
        Text.Spells body wkt ∧
        Text.Spells (name ++ "(" ++ body ++ ")") (name ++ "(" ++ wkt ++ ")")) ∧
    (∀ pattern, Text.hasBlank pattern = true →
      ∃ body, Text.term pattern = "\"" ++ body ++ "\"" ∧ Text.Spells body pattern) ∧
    (∀ pattern, Text.hasBlank pattern = false → Text.SpellsBare (Text.term pattern) pattern) ∧
    (∀ pattern, Text.IsQuoted (Text.term pattern) ↔ Text.hasBlank pattern = true) ∧
    (∀ s s' : String, (Literal.text s).term = (Literal.text s').term → s = s') ∧
    ∀ pattern pattern', Text.term pattern = Text.term pattern' → pattern = pattern' := by
  refine ⟨fun s => ⟨_, rfl, Text.escape_spells s⟩, ?_, fun pattern h => ?_, fun pattern h => ?_,
    Text.isQuoted_term_iff, fun s s' => Text.quote_injective, fun _ _ => Text.term_injective⟩
  · intro op name wkt field h
    refine ⟨Text.escape wkt, Spatial.clause_of_relation? h field, Text.escape_spells wkt, ?_⟩
    have hname : Text.IsVerbatim (name ++ "(") := by
      have hverbatim := Spatial.isVerbatim_of_relation? h
      intro c hc
      rw [String.toList_append] at hc
      rcases List.mem_append.mp hc with hc | hc
      · exact hverbatim c hc
      · rw [List.mem_singleton.mp hc]
        decide
    rw [← Text.escape_around hname (by decide) wkt]
    exact Text.escape_spells _
  · refine ⟨Text.escape pattern, ?_, Text.escape_spells pattern⟩
    rw [Text.term, if_pos h]
    rfl
  · have hterm : Text.term pattern = Text.bare pattern := by
      rw [Text.term, h]
      rfl
    rw [hterm]
    exact Text.bare_spells pattern

theorem operands_readBack_hostile :
    (Spatial.within "P\"\\").relation? = some ("IsWithin", "P\"\\") ∧
      Text.hasBlank "a b\\" = true ∧ Text.hasBlank "a*\\?\"" = false ∧
      (∃ body, (Spatial.within "P\"\\").clause "location_geo" =
          "location_geo" ++ ":\"" ++ "IsWithin" ++ "(" ++ body ++ ")\"" ∧
        Text.Spells body "P\"\\") ∧
      Text.term "a b\\" = "\"a b\\\\\"" ∧ Text.IsQuoted (Text.term "a b\\") ∧
      Text.term "a*\\?\"" = "a*\\\\?\\\"" ∧
      Text.liveWildcards (Text.term "a*\\?\"") = ['*', '?'] := by
  obtain ⟨-, hshape, -, hbare, hquoted, -, -⟩ := operands_readBack
  have hwithin : (Spatial.within "P\"\\").relation? = some ("IsWithin", "P\"\\") := rfl
  have hblank : Text.hasBlank "a b\\" = true := by decide
  have hword : Text.hasBlank "a*\\?\"" = false := by decide
  obtain ⟨body, hclause, hspells, -⟩ := hshape _ _ _ "location_geo" hwithin
  exact ⟨hwithin, hblank, hword, ⟨body, hclause, hspells⟩, rfl, (hquoted _).mpr hblank, rfl,
    (hbare _ hword).wildcards⟩

/-! ## Numbers -/

/-- The characters of `NaN`, `inf`, `true` and `false`. -/
def wordChars : List Char :=
  ['N', 'a', 'i', 'n', 'f', 't', 'r', 'u', 'e', 'l', 's']

/-- A character of a number: a digit, a point, or a letter of a word for a value. -/
def isNumeralChar (c : Char) : Bool :=
  c.isDigit || ('.' :: wordChars).contains c

/-- The text of a number without a sign. -/
structure IsNumeral (s : String) : Prop where
  nonempty : s ≠ ""
  chars : ∀ c ∈ s.toList, isNumeralChar c = true

/-- The sign of a number. -/
def signText (negative : Bool) : String :=
  if negative then "-" else ""

namespace IsNumeral

variable {s : String}

theorem of_chars {cs : List Char} (hne : cs ≠ []) (h : ∀ c ∈ cs, isNumeralChar c = true) :
    IsNumeral (String.ofList cs) := by
  refine ⟨fun hempty => hne ?_, fun c hc => h c (by rwa [String.toList_ofList] at hc)⟩
  rw [← String.toList_ofList (l := cs), hempty]
  rfl

theorem of_all (hne : s ≠ "") (h : s.toList.all isNumeralChar = true) : IsNumeral s :=
  ⟨hne, List.all_eq_true.mp h⟩

theorem isPlain (h : IsNumeral s) : IsPlain s.toList :=
  isPlain_of_class (by decide) h.chars

/-- No character of a number is reserved. -/
theorem notMem_reserved (h : IsNumeral s) {c : Char} (hc : c ∈ s.toList) : c ∉ Text.reserved := by
  have hall : Text.reserved.all (fun c => !isNumeralChar c) = true := by decide
  intro hmem
  simpa [h.chars c hc] using List.all_eq_true.mp hall c hmem

theorem isBlank_eq_false {c : Char} (h : isNumeralChar c = true) : Text.isBlank c = false := by
  rcases Bool.or_eq_true_iff.mp h with hdigit | hletter
  · have hbounds : 48 ≤ c.toNat ∧ c.toNat ≤ 57 := by
      simpa [Char.isDigit, UInt32.le_iff_toNat_le] using hdigit
    simp [Text.isBlank, Text.blankRanges]
    omega
  · have hall : ('.' :: wordChars).all (fun c => !Text.isBlank c) = true := by decide
    simpa using List.all_eq_true.mp hall c (List.contains_iff_mem.mp hletter)

/-- A number without a sign is a bare word. -/
theorem isBare (h : IsNumeral s) : Text.IsBare s := by
  have hslash : '\\' ∉ s.toList := fun hmem => h.notMem_reserved hmem (by decide)
  refine ⟨fun c hc => isBlank_eq_false (h.chars c hc), fun r hr hreserved => ?_⟩
  rw [Text.readEscapes_of_notMem hslash] at hr
  obtain ⟨c, hc, rfl⟩ := List.mem_map.mp hr
  exact absurd hreserved (h.notMem_reserved hc)

end IsNumeral

theorem isNumeralChar_of_isDigit {c : Char} (h : c.isDigit = true) : isNumeralChar c = true := by
  simp [isNumeralChar, h]

/-- Digits, with zeros and a point among them, are a number. -/
theorem Decimal.isNumeral_plain (d : Decimal) : IsNumeral (String.ofList d.plain) := by
  have hdigits : ∀ c ∈ digitChars d.digits, isNumeralChar c = true := fun c hc =>
    isNumeralChar_of_isDigit (Nat.isDigit_of_mem_toDigits (by decide) (by decide) hc)
  have hzeros : ∀ n, ∀ c ∈ zeros n, isNumeralChar c = true := by
    intro n c hc
    rw [List.eq_of_mem_replicate hc]
    decide
  have hne : digitChars d.digits ≠ [] := Nat.toDigits_ne_nil
  unfold plain
  dsimp only
  split
  · refine .of_chars (List.append_ne_nil_of_left_ne_nil hne _) fun c hc => ?_
    exact (List.mem_append.mp hc).elim (hdigits c) (hzeros _ c)
  · split
    · refine .of_chars (List.append_ne_nil_of_right_ne_nil _ (List.cons_ne_nil _ _)) fun c hc => ?_
      rcases List.mem_append.mp hc with hc | hc
      · exact hdigits c (List.mem_of_mem_take hc)
      · rcases List.mem_cons.mp hc with rfl | hc
        · decide
        · exact hdigits c (List.mem_of_mem_drop hc)
    · refine .of_chars (List.append_ne_nil_of_right_ne_nil _ hne) fun c hc => ?_
      rcases List.mem_append.mp hc with hc | hc
      · rcases List.mem_cons.mp hc with rfl | hc
        · decide
        · rcases List.mem_cons.mp hc with rfl | hc
          · decide
          · exact hzeros _ c hc
      · exact hdigits c hc

/-- The double is written with a minus sign. -/
def Binary64.isNegative : Binary64 → Bool
  | .notANumber => false
  | .infinite negative => negative
  | .finite negative _ _ => negative

theorem Binary64.exists_numeral (x : Binary64) :
    ∃ numeral, x.plainText = signText x.isNegative ++ numeral ∧ IsNumeral numeral := by
  cases x with
  | notANumber => exact ⟨"NaN", rfl, .of_all (by decide) (by decide)⟩
  | infinite negative => exact ⟨"inf", rfl, .of_all (by decide) (by decide)⟩
  | finite negative mantissa exponent => exact ⟨_, rfl, Decimal.isNumeral_plain _⟩

theorem exists_numeral_intText (i : Int) :
    ∃ numeral, intText i = signText (decide (i < 0)) ++ numeral ∧ IsNumeral numeral := by
  refine ⟨String.ofList (Decimal.digitChars i.natAbs), ?_, .of_chars Nat.toDigits_ne_nil ?_⟩
  · simp [intText, signText]
  · exact fun c hc =>
      isNumeralChar_of_isDigit (Nat.isDigit_of_mem_toDigits (by decide) (by decide) hc)

namespace Literal

/-- The literal is a number that is written with a minus sign. -/
def isNegative : Literal → Bool
  | integer i => decide (i.toInt < 0)
  | double x => (Binary64.ofFloat x).isNegative
  | _ => false

/-- A literal is a quoted text, or a word, with a minus sign if it is a negative number. -/
theorem term_forms (value : Literal) :
    Text.IsQuoted value.term ∧ value.isNegative = false ∨
      ∃ numeral, value.term = signText value.isNegative ++ numeral ∧ IsNumeral numeral := by
  cases value with
  | text s => exact .inl ⟨Text.isQuoted_quote s, rfl⟩
  | integer i => exact .inr (exists_numeral_intText i.toInt)
  | double x => exact .inr (Binary64.ofFloat x).exists_numeral
  | boolean b =>
    refine .inr ⟨(boolean b).term, ?_, ?_⟩
    · simp [isNegative, signText]
    · cases b <;> exact .of_all (by decide) (by decide)

end Literal

/-! ## Operands -/

namespace Clause

/-- A bound of a range: a quoted text, or a word without special characters, among them the star for
no bound. -/
inductive IsBound (s : String) : Prop where
  | quoted (h : Text.IsQuoted s)
  | word (hne : s ≠ "") (hplain : IsPlain s.toList)

/-- The text is read as one operand: a quoted text, a range in brackets, or a bare word in which
every reserved character is escaped. -/
inductive IsOperand : String → Prop where
  | quoted {s : String} (h : Text.IsQuoted s) : IsOperand s
  | range {opening low high closing : String} (hopening : opening = "[" ∨ opening = "\x7b")
    (hlow : IsBound low) (hhigh : IsBound high) (hclosing : closing = "]" ∨ closing = "\x7d") :
    IsOperand (opening ++ low ++ " TO " ++ high ++ closing)
  | bare {s : String} (hne : s ≠ "") (h : Text.IsBare s) : IsOperand s

theorem isBound_unbounded : IsBound unbounded :=
  .word (by decide) (by decide)

theorem isBound_term (value : Literal) : IsBound value.term := by
  rcases value.term_forms with ⟨hquoted, -⟩ | ⟨numeral, hterm, hnumeral⟩
  · exact .quoted hquoted
  · rw [hterm]
    refine .word (fun hempty => hnumeral.nonempty (String.append_eq_empty_iff.mp hempty).2) ?_
    exact IsPlain.text_append (isPlain_sign _) hnumeral.isPlain

/-- An operand starts with a quote or a bracket, or it is a bare word. -/
theorem IsOperand.head {s : String} (h : IsOperand s) :
    (∃ c ∈ ['"', '[', '\x7b'], ∃ cs, s.toList = c :: cs) ∨ s ≠ "" ∧ Text.IsBare s := by
  cases h with
  | quoted hquoted =>
    obtain ⟨body, rfl, -⟩ := hquoted
    exact .inl ⟨'"', by decide, _, by simp; rfl⟩
  | range hopening _ _ _ =>
    rcases hopening with rfl | rfl
    · exact .inl ⟨'[', by decide, _, by simp; rfl⟩
    · exact .inl ⟨'\x7b', by decide, _, by simp; rfl⟩
  | bare hne hbare => exact .inr ⟨hne, hbare⟩

/-- Nothing is no operand. -/
theorem not_isOperand_empty : ¬ IsOperand "" := by
  intro h
  rcases h.head with ⟨c, -, cs, htext⟩ | ⟨hne, -⟩
  · cases htext
  · exact hne rfl

/-- A sign that is not escaped makes no operand. -/
theorem not_isOperand_minus (s : String) : ¬ IsOperand ("-" ++ s) := by
  intro h
  have htext : ("-" ++ s).toList = '-' :: s.toList := by simp
  rcases h.head with ⟨c, hc, cs, hhead⟩ | ⟨-, hbare⟩
  · obtain rfl := (List.cons.inj (htext.symm.trans hhead)).1
    exact absurd hc (by decide)
  · have hread : ('-', false) ∈ Text.readEscapes ("-" ++ s).toList := by
      rw [htext, Text.readEscapes_plain (by decide)]
      exact List.mem_cons_self
    exact absurd (hbare.escaped _ hread (by decide)) (by decide)

/-- A literal by itself is an operand just if it is not a negative number. -/
theorem isOperand_term_iff (value : Literal) : IsOperand value.term ↔ value.isNegative = false := by
  rcases value.term_forms with ⟨hquoted, hpositive⟩ | ⟨numeral, hterm, hnumeral⟩
  · exact iff_of_true (.quoted hquoted) hpositive
  · rw [hterm]
    cases value.isNegative with
    | false =>
      have hbare : IsOperand numeral := .bare hnumeral.nonempty hnumeral.isBare
      simpa [signText] using hbare
    | true => simpa [signText] using not_isOperand_minus numeral

/-- A pattern is an operand unless it is empty. -/
theorem isOperand_pattern_iff (pattern : String) :
    IsOperand (Text.term pattern) ↔ pattern ≠ "" := by
  constructor
  · rintro h rfl
    exact not_isOperand_empty h
  · intro hne
    cases hblank : Text.hasBlank pattern with
    | true => exact .quoted ((Text.isQuoted_term_iff pattern).mpr hblank)
    | false =>
      have hterm : Text.term pattern = Text.bare pattern := by
        rw [Text.term, hblank]
        rfl
      rw [hterm]
      refine .bare (fun hempty => hne ?_) (Text.isBare_bare hblank)
      apply String.toList_inj.mp
      rw [← (Text.bare_spells pattern).reading, hempty]
      rfl

end Clause

/-! ## Tests with an operand -/

namespace Comparison

/-- What stands after the field of a comparison. -/
def operand (value : Literal) : Comparison → String
  | equal => value.term
  | notEqual => value.term
  | less => range openAbove unbounded value.term openBelow
  | lessOrEqual => range "[" unbounded value.term "]"
  | greater => range openAbove value.term unbounded openBelow
  | greaterOrEqual => range "[" value.term unbounded "]"

/-- The literal stands alone, and not in a range. -/
def IsExact (op : Comparison) : Prop :=
  op = equal ∨ op = notEqual

theorem isOperand_iff (op : Comparison) (value : Literal) :
    IsOperand (op.operand value) ↔ ¬ (op.IsExact ∧ value.isNegative = true) := by
  have hterm := isBound_term value
  cases op with
  | equal => simpa [operand, IsExact] using isOperand_term_iff value
  | notEqual => simpa [operand, IsExact] using isOperand_term_iff value
  | less =>
    exact iff_of_true (.range (.inr rfl) isBound_unbounded hterm (.inr rfl)) (by simp [IsExact])
  | lessOrEqual =>
    exact iff_of_true (.range (.inl rfl) isBound_unbounded hterm (.inl rfl)) (by simp [IsExact])
  | greater =>
    exact iff_of_true (.range (.inr rfl) hterm isBound_unbounded (.inr rfl)) (by simp [IsExact])
  | greaterOrEqual =>
    exact iff_of_true (.range (.inl rfl) hterm isBound_unbounded (.inl rfl)) (by simp [IsExact])

end Comparison

namespace Test

/-- The test compares with a literal or looks for a pattern. -/
def TakesOperand : Test → Prop
  | comparison _ _ => True
  | text _ => True
  | _ => False

/-- The clause of a test around its operand: the field comes first, a difference is negated, and a
tilde at the end asks for similar words. -/
def frame (field operand : String) : Test → String
  | comparison .notEqual _ => negation (field ++ ":" ++ operand)
  | text wanted => field ++ ":" ++ operand ++ (if wanted.fuzzy then "~" else "")
  | _ => field ++ ":" ++ operand

/-- The test is written without an operand: a negative number stands alone with its sign bare, or
the pattern is empty. -/
def SpoilsOperand : Test → Prop
  | comparison op value => op.IsExact ∧ value.isNegative = true
  | text wanted => wanted.pattern = ""
  | _ => False

theorem exists_operand {wanted : Test} (h : wanted.TakesOperand) (field : String) :
    ∃ operand, wanted.clause field = .ok (wanted.frame field operand) ∧
      (IsOperand operand ↔ ¬ wanted.SpoilsOperand) := by
  cases wanted with
  | comparison op value =>
    refine ⟨op.operand value, ?_, op.isOperand_iff value⟩
    cases op <;> rfl
  | text wanted => exact ⟨Text.term wanted.pattern, rfl, isOperand_pattern_iff wanted.pattern⟩
  | spatial op => cases h
  | temporal op => cases h

end Test

namespace ClauseWriter

/-- **Operands are well formed, but for signs and empty patterns.** A comparison or a text test on a
property with a field is written with the field, a colon and an operand, unless it asks for equality
with a negative number, or for a difference from one, or for the empty pattern. -/
theorem operand_wellFormed_iff (w : ClauseWriter) (property field : String) (wanted : Test)
    (hwanted : wanted.TakesOperand) (hfield : wanted.field? w.schema property = some field)
    (found : Findings) :
    ∃ operand, (w.testClause property wanted).run found =
        (.ok (wanted.frame field operand), w.note property wanted found) ∧
      (IsOperand operand ↔ ¬ wanted.SpoilsOperand) := by
  obtain ⟨operand, hclause, hoperand⟩ := Test.exists_operand hwanted field
  refine ⟨operand, ?_, hoperand⟩
  unfold testClause
  rw [hfield]
  simp only [hclause]
  rfl

/-- A writer whose schema knows resources, and a depth in whole numbers. -/
def depthWriter : ClauseWriter where
  schema := (Resource.schema.register "depth" .long).schema
  byDistance := false

theorem operand_wellFormed_bound :
    (Test.comparison .less (.integer (-5))).TakesOperand ∧
      (Test.comparison .less (.integer (-5))).field? depthWriter.schema "depth" =
        some "depth_lng" ∧
      ∃ operand, (depthWriter.testClause "depth" (.comparison .less (.integer (-5)))).run {} =
          (.ok ("depth_lng:" ++ operand), {}) ∧ IsOperand operand := by
  have hfield : (Test.comparison .less (.integer (-5))).field? depthWriter.schema "depth" =
      some "depth_lng" := by decide
  obtain ⟨operand, hrun, hoperand⟩ :=
    operand_wellFormed_iff depthWriter "depth" "depth_lng"
      (.comparison .less (.integer (-5))) trivial hfield {}
  refine ⟨trivial, hfield, operand, hrun, hoperand.mpr ?_⟩
  rintro ⟨hexact, -⟩
  rcases hexact with h | h <;> cases h

/-- A negative number that is asked for has a minus sign after its colon, and an empty pattern has
nothing there. -/
theorem operand_unescaped :
    (∃ operand, (depthWriter.testClause "depth" (.comparison .equal (.integer (-5)))).run {} =
        (.ok ("depth_lng:" ++ operand), {}) ∧ operand = "-5" ∧ ¬ IsOperand operand) ∧
      ∃ operand, (depthWriter.testClause "title" (.text { pattern := "" })).run {} =
        (.ok ("title_txt:" ++ operand), {}) ∧ operand = "" ∧ ¬ IsOperand operand :=
  ⟨⟨"-5", rfl, rfl, not_isOperand_minus "5"⟩, ⟨"", rfl, rfl, not_isOperand_empty⟩⟩

end ClauseWriter

end CatalogSearch
