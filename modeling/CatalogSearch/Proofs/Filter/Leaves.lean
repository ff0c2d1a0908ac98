import CatalogSearch.Proofs.Filter.Lexing
import CatalogSearch.Proofs.Outcomes

/-!
# The clauses of tests are leaves

Numbers and instants are written without special characters, and texts are quoted or escaped.
So no operand opens or closes anything in the clause of its test.

- `Clause.IsFieldName`: the names of fields that need no escape.
- `Test.isLeaf_clause`: the clause of a test is a leaf, unless the test is that a property
  differs.
-/

namespace CatalogSearch

open Clause

/-! ## Numbers -/

namespace Decimal

theorem isPlain_digitChars (n : Nat) : IsPlain (digitChars n) := by
  have hdigits : ∀ c ∈ digitChars n, c.isDigit = true :=
    fun _ hc => Nat.isDigit_of_mem_toDigits (by decide) (by decide) hc
  exact isPlain_of_class (by decide) hdigits

theorem isPlain_zeros (n : Nat) : IsPlain (zeros n) := by
  intro c hc
  rw [List.eq_of_mem_replicate hc]
  decide

theorem isPlain_plain (d : Decimal) : IsPlain d.plain := by
  have hdigits := isPlain_digitChars d.digits
  unfold plain
  dsimp only
  by_cases hwhole : 0 ≤ d.exponent
  · rw [if_pos hwhole]
    exact hdigits.append (isPlain_zeros _)
  rw [if_neg hwhole]
  split
  · -- the point stands between two parts of the digits
    unfold withPoint
    refine IsPlain.append ?_ (IsPlain.cons (by decide) ?_)
    · exact fun c hc => hdigits c (List.mem_of_mem_take hc)
    · exact fun c hc => hdigits c (List.mem_of_mem_drop hc)
  · have hpoint : IsPlain ['0', '.'] := by decide
    exact hpoint.append ((isPlain_zeros _).append hdigits)

end Decimal

theorem isPlain_sign (negative : Bool) : IsPlain (if negative then "-" else "").toList := by
  cases negative <;> decide

theorem isPlain_plainText (x : Float) : IsPlain (plainText x).toList := by
  unfold plainText
  cases Binary64.ofFloat x with
  | notANumber => decide
  | infinite negative =>
    have hword : IsPlain "inf".toList := by decide
    exact (isPlain_sign negative).text_append hword
  | finite negative mantissa exponent =>
    refine (isPlain_sign negative).text_append ?_
    rw [String.toList_ofList]
    exact Decimal.isPlain_plain _

theorem isPlain_intText (i : Int) : IsPlain (intText i).toList := by
  have hsign : IsPlain (if i < 0 then "-" else "").toList := by
    split <;> decide
  refine hsign.text_append ?_
  rw [String.toList_ofList]
  exact Decimal.isPlain_digitChars _

theorem Point.isPlain_param (p : Point) : IsPlain p.param.toList := by
  have hcomma : IsPlain ",".toList := by decide
  exact ((isPlain_plainText _).text_append hcomma).text_append (isPlain_plainText _)

/-! ## Instants -/

namespace Instant

theorem isPlain_padded (width n : Nat) : IsPlain (padded width n) :=
  (Decimal.isPlain_zeros _).append (Decimal.isPlain_digitChars n)

theorem isPlain_fraction (nanosecond : Nat) : IsPlain (fraction nanosecond) := by
  unfold fraction
  split
  · exact List.forall_mem_nil _
  · refine IsPlain.cons (by decide) fun c hc => ?_
    -- what is left of the digits after their last zeros are dropped
    have hmem := (List.dropWhile_sublist _).subset (List.mem_reverse.mp hc)
    exact isPlain_padded 9 nanosecond c (List.mem_reverse.mp hmem)

theorem isPlain_text (i : Instant) : IsPlain i.text.toList := by
  unfold text
  rw [String.toList_ofList]
  have hpart : ∀ c ∉ special, ∀ n, IsPlain (c :: padded 2 n) :=
    fun c hc n => IsPlain.cons hc (isPlain_padded 2 n)
  have hdate := ((isPlain_padded 4 i.date.year.toNat).append
    (hpart '-' (by decide) i.date.month)).append (hpart '-' (by decide) i.date.day)
  have hminute := (hdate.append (hpart 'T' (by decide) i.hour)).append
    (hpart ':' (by decide) i.minute)
  have hsecond := (hminute.append (hpart ':' (by decide) i.second)).append
    (isPlain_fraction i.nanosecond)
  exact hsecond.append (by decide)

theorem isPlain_term {i : Instant} {text : String} (h : i.term = .ok text) :
    IsPlain text.toList := by
  unfold term utcText at h
  cases hutc : i.toUtc? with
  | none =>
    rw [hutc] at h
    cases h
  | some utc =>
    rw [hutc] at h
    dsimp only at h
    by_cases hyear : utc.date.year < 0
    · rw [if_pos hyear] at h
      cases h
    · rw [if_neg hyear] at h
      have htext : utc.text = text := Except.ok.inj h
      rw [← htext]
      exact isPlain_text utc

end Instant

/-! ## Operands -/

theorem Literal.isClosed_term (value : Literal) : IsClosed value.term.toList := by
  cases value with
  | text s => exact isClosed_quote s
  | integer i => exact (isPlain_intText _).isClosed
  | double x => exact (isPlain_plainText x).isClosed
  | boolean b =>
    have hplain : IsPlain (Literal.boolean b).term.toList := by
      cases b <;> decide
    exact hplain.isClosed

theorem Clause.isClosed_unbounded : IsClosed unbounded.toList :=
  IsPlain.isClosed (by decide)

/-- Bounds stay within the brackets of their range. -/
theorem Clause.isClosed_range {opening low high closing : String} (hlow : IsClosed low.toList)
    (hhigh : IsClosed high.toList) (ho : opening = "[" ∨ opening = openAbove)
    (hc : closing = "]" ∨ closing = openBelow) :
    IsClosed (range opening low high closing).toList := by
  have hword : IsBody " TO ".toList := isBody_of_blank_or_not_special (by decide)
  have hbody := (hlow.isBody.append hword).append hhigh.isBody
  obtain ⟨o, hopening, ho⟩ : ∃ o, opening.toList = [o] ∧ (o = '[' ∨ o = '\x7b') := by
    rcases ho with rfl | rfl
    · exact ⟨'[', rfl, .inl rfl⟩
    · exact ⟨'\x7b', rfl, .inr rfl⟩
  obtain ⟨c, hclosing, hc⟩ : ∃ c, closing.toList = [c] ∧ (c = ']' ∨ c = '\x7d') := by
    rcases hc with rfl | rfl
    · exact ⟨']', rfl, .inl rfl⟩
    · exact ⟨'\x7d', rfl, .inr rfl⟩
  have hrange := hbody.isClosed ho hc
  unfold range
  rw [String.toList_append, String.toList_append, String.toList_append, String.toList_append,
    hopening, hclosing]
  simpa only [List.append_assoc, List.cons_append, List.nil_append] using hrange

/-- The operand of a relation stays within its quotes, with the name of the relation. -/
theorem Spatial.isClosed_relation {name : String} (hname : IsPlain name.toList) (wkt : String) :
    IsClosed (relation name wkt).toList := by
  have hquoted : ∀ depth, Lex.scan { depth, quoted := true }
      (name.toList ++ '(' :: (Text.escapeChars wkt.toList ++ [')'])) =
        some { depth, quoted := true } := by
    intro depth
    rw [Lex.scan_append, hname.scan rfl]
    show Lex.scan { depth, quoted := true } (Text.escapeChars wkt.toList ++ [')']) = _
    rw [Lex.scan_append, scan_escapeChars]
    rfl
  have hquotes := isClosed_quotes hquoted
  unfold relation Text.escape
  simpa [String.toList_append] using hquotes

/-! ## Fields -/

/-- A character of a field name: a letter or a digit of any script, a minus, an underscore or a
dot. All characters beyond ASCII are taken for letters. -/
def Clause.isFieldChar (c : Char) : Bool :=
  c.isAlphanum || 128 ≤ c.toNat || c = '-' || c = '_' || c = '.'

/-- The names of fields that need no escape. -/
def Clause.IsFieldName (field : String) : Prop :=
  ∀ c ∈ field.toList, isFieldChar c = true

instance (field : String) : Decidable (IsFieldName field) :=
  List.decidableBAll (isFieldChar · = true) field.toList

namespace Clause

variable {field : String}

theorem IsFieldName.isPlain (h : IsFieldName field) : IsPlain field.toList :=
  isPlain_of_class (by decide) h

/-- A clause that starts with a field name and a colon is not one of the words for all records
and none. -/
theorem isLeaf_onField (hfield : IsFieldName field) {operand : String}
    (h : IsClosed operand.toList) : IsLeaf (onField field operand).toList := by
  have hclosed : IsClosed (onField field operand).toList := by
    have hcolon : IsPlain ":".toList := by decide
    have hname : IsPlain (field ++ ":").toList := hfield.isPlain.text_append hcolon
    unfold onField
    rw [String.toList_append]
    exact hname.isClosed.append h
  have htext : (onField field operand).toList = field.toList ++ ':' :: operand.toList := by
    simp [onField]
  have hstar : '*' ∉ field.toList := fun hmem => Bool.noConfusion (hfield _ hmem)
  rw [htext] at hclosed ⊢
  generalize field.toList = cs at hclosed hstar ⊢
  refine ⟨List.append_ne_nil_of_right_ne_nil _ (List.cons_ne_nil _ _), ?_, ?_, hclosed 0⟩
  · -- the name would start with the star
    intro heq
    cases cs with
    | nil => cases heq
    | cons c cs =>
      obtain rfl := (List.cons.inj heq).1
      exact hstar (List.mem_cons_self ..)
  · -- the star would be its second character
    intro heq
    cases cs with
    | nil => cases heq
    | cons c cs =>
      have hrest := (List.cons.inj heq).2
      cases cs with
      | nil => cases hrest
      | cons d cs =>
        obtain rfl := (List.cons.inj hrest).1
        exact hstar (List.mem_cons_of_mem _ (List.mem_cons_self ..))

end Clause

/-! ## Clauses of tests -/

/-- The clause of a circle is all within brackets. -/
theorem Spatial.isLeaf_circle {field : String} (hfield : IsFieldName field) (center : Point)
    (meters : Float) : IsLeaf ((pointRadius center meters).clause field).toList := by
  have hcall : IsBody "!geofilt sfield=".toList := isBody_of_blank_or_not_special (by decide)
  have hpoint : IsBody " pt=".toList := isBody_of_blank_or_not_special (by decide)
  have hradius : IsBody " d=".toList := isBody_of_blank_or_not_special (by decide)
  have hbody := ((((hcall.append hfield.isPlain.isClosed.isBody).append hpoint).append
    center.isPlain_param.isClosed.isBody).append hradius).append
      (isPlain_plainText (meters / metersPerKilometer)).isClosed.isBody
  have hclosed := hbody.isClosed (.inr rfl) (.inr rfl)
  have htext : ((pointRadius center meters).clause field).toList =
      '\x7b' :: ("!geofilt sfield=".toList ++ field.toList ++ " pt=".toList ++
        center.param.toList ++ " d=".toList ++
          (plainText (meters / metersPerKilometer)).toList ++ ['\x7d']) := by
    show (_ ++ _ ++ _ ++ _ ++ _ ++ _ ++ _ : String).toList = _
    simp only [String.toList_append]
    rfl
  rw [htext]
  refine ⟨List.cons_ne_nil _ _, fun heq => ?_, fun heq => ?_, hclosed 0⟩
  · have hbracket : '\x7b' = '*' := (List.cons.inj heq).1
    exact absurd hbracket (by decide)
  · have hbracket : '\x7b' = '-' := (List.cons.inj heq).1
    exact absurd hbracket (by decide)

theorem Spatial.isLeaf_clause {field : String} (hfield : IsFieldName field) (op : Spatial) :
    IsLeaf (op.clause field).toList := by
  cases op with
  | intersects wkt => exact isLeaf_onField hfield (isClosed_relation (by decide) wkt)
  | within wkt => exact isLeaf_onField hfield (isClosed_relation (by decide) wkt)
  | contains wkt => exact isLeaf_onField hfield (isClosed_relation (by decide) wkt)
  | disjoint wkt => exact isLeaf_onField hfield (isClosed_relation (by decide) wkt)
  | nearest _ =>
    exact isLeaf_onField hfield
      (isClosed_range isClosed_unbounded isClosed_unbounded (.inl rfl) (.inl rfl))
  | pointRadius center meters => exact isLeaf_circle hfield center meters

theorem Temporal.isLeaf_clause {field text : String} (hfield : IsFieldName field) {op : Temporal}
    (h : op.clause field = .ok text) : IsLeaf text.toList := by
  have hstar := isClosed_unbounded
  cases op with
  | before instant =>
    obtain ⟨high, hhigh, ⟨⟩⟩ := exists_of_bind_eq_ok h
    have hclosed := (Instant.isPlain_term hhigh).isClosed
    exact isLeaf_onField hfield (isClosed_range hstar hclosed (.inl rfl) (.inr rfl))
  | after instant =>
    obtain ⟨low, hlow, ⟨⟩⟩ := exists_of_bind_eq_ok h
    have hclosed := (Instant.isPlain_term hlow).isClosed
    exact isLeaf_onField hfield (isClosed_range hclosed hstar (.inr rfl) (.inl rfl))
  | during start finish =>
    obtain ⟨low, hlow, h⟩ := exists_of_bind_eq_ok h
    obtain ⟨high, hhigh, ⟨⟩⟩ := exists_of_bind_eq_ok h
    have hlow := (Instant.isPlain_term hlow).isClosed
    have hhigh := (Instant.isPlain_term hhigh).isClosed
    exact isLeaf_onField hfield (isClosed_range hlow hhigh (.inr rfl) (.inr rfl))

theorem TextMatch.isLeaf_clause {field : String} (hfield : IsFieldName field) (t : TextMatch) :
    IsLeaf (t.clause field).toList := by
  have htilde : IsPlain (if t.fuzzy then "~" else "").toList := by
    cases t.fuzzy <;> decide
  have hclosed : IsClosed (Text.term t.pattern ++ (if t.fuzzy then "~" else "")).toList := by
    rw [String.toList_append]
    exact (isClosed_term t.pattern).append htilde.isClosed
  have hleaf := isLeaf_onField hfield hclosed
  unfold onField at hleaf
  rw [← String.append_assoc] at hleaf
  exact hleaf

theorem Comparison.isLeaf_clause {field : String} (hfield : IsFieldName field) (value : Literal)
    {op : Comparison} (hop : op ≠ .notEqual) : IsLeaf (op.clause field value).toList := by
  have hvalue := value.isClosed_term
  have hstar := isClosed_unbounded
  cases op with
  | equal => exact isLeaf_onField hfield hvalue
  | notEqual => exact absurd rfl hop
  | less => exact isLeaf_onField hfield (isClosed_range hstar hvalue (.inr rfl) (.inr rfl))
  | lessOrEqual => exact isLeaf_onField hfield (isClosed_range hstar hvalue (.inl rfl) (.inl rfl))
  | greater => exact isLeaf_onField hfield (isClosed_range hvalue hstar (.inr rfl) (.inr rfl))
  | greaterOrEqual =>
    exact isLeaf_onField hfield (isClosed_range hvalue hstar (.inl rfl) (.inl rfl))

end CatalogSearch
