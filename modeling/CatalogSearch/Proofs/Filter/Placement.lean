import CatalogSearch.Proofs.Filter.Meaning

/-!
# Filters whose clauses are in their places

Only two things put a minus in front of a clause: an empty disjunction, and a field whose name
starts with one. A filter without either is well placed, however it is built.

- `Filter.hasAlternatives`: no disjunction of the filter is empty.
- `Test.isUnprefixed_clause`: the leaf of a test starts with its field, or with a bracket.
- `Filter.isPlaced_of_hasAlternatives`: such filters are well placed.
- `ClauseWriter.write_finds`: so the engine finds by their texts the records for which they hold.
-/

namespace CatalogSearch

open Clause

/-! ## Leaves -/

/-- No minus stands at the front of the text. -/
def Clause.IsUnprefixed (text : String) : Prop := text.toList.head? ≠ some '-'

/-- The fields of a schema have names without a minus at the front. -/
def Schema.NamesUnprefixed (schema : Schema) : Prop :=
  ∀ property format phrase options field,
    schema.field? property format phrase options = some field → IsUnprefixed field

namespace Clause

/-- The name of a field and the colon after it stay at the front. -/
theorem isUnprefixed_onField {field : String} (h : IsUnprefixed field) (term tail : String) :
    IsUnprefixed (onField field term ++ tail) := by
  have htext : (onField field term ++ tail).toList =
      field.toList ++ ':' :: (term.toList ++ tail.toList) := by
    simp [onField]
  unfold IsUnprefixed at h ⊢
  rw [htext]
  cases hchars : field.toList with
  | nil => simp
  | cons c cs =>
    rw [hchars] at h
    exact h

theorem isUnprefixed_onField_nil {field : String} (h : IsUnprefixed field) (term : String) :
    IsUnprefixed (onField field term) := by
  have htail := isUnprefixed_onField h term ""
  rwa [String.append_empty] at htail

end Clause

namespace Test

variable {field text : String}

theorem isUnprefixed_temporal (h : IsUnprefixed field) {op : Temporal}
    (hclause : op.clause field = .ok text) : IsUnprefixed text := by
  cases op with
  | before instant =>
    obtain ⟨high, -, ⟨⟩⟩ := exists_of_bind_eq_ok hclause
    exact isUnprefixed_onField_nil h _
  | after instant =>
    obtain ⟨low, -, ⟨⟩⟩ := exists_of_bind_eq_ok hclause
    exact isUnprefixed_onField_nil h _
  | during start finish =>
    obtain ⟨low, -, hclause⟩ := exists_of_bind_eq_ok hclause
    obtain ⟨high, -, ⟨⟩⟩ := exists_of_bind_eq_ok hclause
    exact isUnprefixed_onField_nil h _

/-- The leaf of a circle starts with a bracket. -/
theorem isUnprefixed_circle (center : Point) (meters : Float) :
    IsUnprefixed ((Spatial.pointRadius center meters).clause field) := by
  have htext : ∃ rest,
      ((Spatial.pointRadius center meters).clause field).toList = '\x7b' :: rest := by
    show ∃ rest, (_ ++ _ ++ _ ++ _ ++ _ ++ _ ++ _ : String).toList = _
    simp only [String.toList_append]
    exact ⟨_, rfl⟩
  obtain ⟨rest, hrest⟩ := htext
  unfold IsUnprefixed
  rw [hrest]
  exact fun h => absurd (Option.some.inj h) (by decide)

/-- The leaf of a test starts with its field, or with a bracket. -/
theorem isUnprefixed_clause (h : IsUnprefixed field) {wanted : Test}
    (hne : ∀ value, wanted ≠ .comparison .notEqual value)
    (hclause : wanted.clause field = .ok text) : IsUnprefixed text := by
  cases wanted with
  | comparison op value =>
    cases hclause
    cases op with
    | notEqual => exact absurd rfl (hne value)
    | _ => exact isUnprefixed_onField_nil h _
  | spatial op =>
    cases hclause
    cases op with
    | pointRadius center meters => exact isUnprefixed_circle center meters
    | _ => exact isUnprefixed_onField_nil h _
  | temporal op => exact isUnprefixed_temporal h hclause
  | text wanted =>
    cases hclause
    exact isUnprefixed_onField h _ _

end Test

/-! ## Filters -/

namespace Clause

/-- The clause may stand anywhere: it is well placed itself, and no minus is in front of it. -/
structure Tree.StandsAnywhere (t : Tree) : Prop where
  placed : t.isPlaced = true
  unprefixed : t.isPrefixed = false

/-- Clauses that may stand anywhere may do so side by side. -/
theorem Tree.standsAnywhere_joined {j : Junction} {empty : Tree} {ts : List Tree}
    (hempty : ts = [] → empty.StandsAnywhere) (h : ∀ t ∈ ts, t.StandsAnywhere) :
    (joined j empty ts).StandsAnywhere := by
  match ts with
  | [] => exact hempty rfl
  | [t] => exact h t (List.mem_cons_self ..)
  | t :: second :: rest =>
    have hplaced : isPlaced.arePlaced (t :: second :: rest) = true :=
      arePlaced_iff.mpr fun u hu => (h u hu).placed
    have hprefixed : (t :: second :: rest).all (!isPrefixed ·) = true := by
      refine List.all_eq_true.mpr fun u hu => ?_
      rw [(h u hu).unprefixed]
      rfl
    refine ⟨?_, rfl⟩
    cases j with
    | conjunction => exact hplaced
    | disjunction => exact Bool.and_eq_true_iff.mpr ⟨hprefixed, hplaced⟩

end Clause

/-- A test is written as a leaf without a minus, or as the negation of one. -/
theorem Test.standsAnywhere_outline {schema : Schema} (hnames : schema.NamesUnprefixed)
    {property : String} {wanted : Test} {t : Tree}
    (h : wanted.outline? schema property = some t) : t.StandsAnywhere := by
  unfold outline? at h
  split at h
  · cases h
  · next field value hfield =>
    cases h
    have hleaf : IsUnprefixed (Comparison.equal.clause field value) :=
      isUnprefixed_onField_nil (hnames _ _ _ _ _ hfield) _
    have hprefixed : (Tree.leaf (Comparison.equal.clause field value)).isPrefixed = false :=
      decide_eq_false hleaf
    refine ⟨?_, rfl⟩
    rw [Tree.isPlaced, hprefixed]
    rfl
  · next wanted _ _ field hne hfield =>
    cases hclause : wanted.clause field with
    | error failure =>
      rw [hclause] at h
      cases h
    | ok text =>
      rw [hclause] at h
      cases h
      have hleaf : IsUnprefixed text := isUnprefixed_clause (hnames _ _ _ _ _ hfield) hne hclause
      exact ⟨rfl, decide_eq_false hleaf⟩

namespace Filter

/-- No disjunction of the filter is without children. -/
def hasAlternatives : Filter → Bool
  | all children => allHave children
  | any children => !children.isEmpty && allHave children
  | not child => hasAlternatives child
  | test _ _ => true
where
  /-- The same of several filters. -/
  allHave : List Filter → Bool
    | [] => true
    | f :: fs => hasAlternatives f && allHave fs

variable {schema : Schema}

mutual

theorem standsAnywhere_outline (hnames : schema.NamesUnprefixed) :
    ∀ (f : Filter) (t : Tree), f.hasAlternatives = true → f.outline? schema = some t →
      t.StandsAnywhere
  | .all children, t, halt, h => by
    obtain ⟨ts, hts, rfl⟩ := Option.map_eq_some_iff.mp h
    obtain ⟨-, hmembers⟩ := standsAnywhere_outlines hnames children ts halt hts
    exact Tree.standsAnywhere_joined (fun _ => ⟨rfl, rfl⟩) hmembers
  | .any children, t, halt, h => by
    obtain ⟨ts, hts, rfl⟩ := Option.map_eq_some_iff.mp h
    obtain ⟨hne, halt⟩ := Bool.and_eq_true_iff.mp halt
    obtain ⟨hempty, hmembers⟩ := standsAnywhere_outlines hnames children ts halt hts
    refine Tree.standsAnywhere_joined (fun hnil => ?_) hmembers
    rw [hempty hnil] at hne
    cases hne
  | .not child, t, halt, h => by
    obtain ⟨u, hu, rfl⟩ := Option.map_eq_some_iff.mp h
    have hchild := standsAnywhere_outline hnames child u halt hu
    refine ⟨?_, rfl⟩
    rw [Tree.isPlaced, hchild.placed, hchild.unprefixed]
    rfl
  | .test property wanted, t, halt, h => Test.standsAnywhere_outline hnames h

theorem standsAnywhere_outlines (hnames : schema.NamesUnprefixed) :
    ∀ (fs : List Filter) (ts : List Tree), hasAlternatives.allHave fs = true →
      outlines? schema fs = some ts → (ts = [] → fs = []) ∧ ∀ t ∈ ts, t.StandsAnywhere
  | [], ts, halt, h => by
    obtain rfl : [] = ts := Option.some.inj h
    exact ⟨fun _ => rfl, List.forall_mem_nil _⟩
  | f :: fs, ts, halt, h => by
    obtain ⟨t, ht, h⟩ := Option.bind_eq_some_iff.mp h
    obtain ⟨rest, hrest, rfl⟩ := Option.map_eq_some_iff.mp h
    obtain ⟨hfirst, hothers⟩ := Bool.and_eq_true_iff.mp halt
    have hmember := standsAnywhere_outline hnames f t hfirst ht
    obtain ⟨-, hmembers⟩ := standsAnywhere_outlines hnames fs rest hothers hrest
    exact ⟨(nomatch ·), List.forall_mem_cons.mpr ⟨hmember, hmembers⟩⟩

end

/-- A filter without empty disjunctions, over fields without a minus at the front, is well
placed. -/
theorem isPlaced_of_hasAlternatives (hnames : schema.NamesUnprefixed) {f : Filter}
    (h : f.hasAlternatives = true) : f.IsPlaced schema :=
  fun t ht => (standsAnywhere_outline hnames f t h ht).placed

end Filter

/-- **Records found.** A filter without empty disjunctions that is not too deep and whose tests
have clauses is written, and the engine finds by the text just the records for which it holds. -/
theorem ClauseWriter.write_finds (w : ClauseWriter) (f : Filter)
    (hnames : w.schema.NamesFields) (hunprefixed : w.schema.NamesUnprefixed)
    (hdepth : f.depth ≤ maxFilterDepth) (htests : f.IsExpressible w.schema)
    (halternatives : f.hasAlternatives = true) :
    ∃ text found, w.write f = (.ok text, found) ∧ ∀ truth answer,
      Answers truth text.toList answer ↔ f.holds (Test.passes w.schema truth) = answer := by
  obtain ⟨text, found, hwrite⟩ := exists_write_eq_ok hdepth htests
  have hplaced := Filter.isPlaced_of_hasAlternatives hunprefixed halternatives
  exact ⟨text, found, hwrite, answers_iff_holds hnames hplaced hwrite⟩

/-- The attributes of a suffix schema decide how its fields start: every suffix starts with the
mark. -/
theorem SuffixSchema.namesUnprefixed {s : SuffixSchema}
    (h : ∀ name ∈ s.attributes.keys, IsUnprefixed name) : s.schema.NamesUnprefixed := by
  intro property format phrase options field hfield
  obtain ⟨hkey, registered, rfl⟩ := s.field?_inv hfield
  have hname := h property hkey
  unfold IsUnprefixed at hname ⊢
  rw [String.toList_append, List.head?_append]
  cases hhead : property.toList.head? with
  | none => cases registered <;> decide
  | some c => rwa [hhead] at hname

theorem Resource.namesUnprefixed : Resource.schema.schema.NamesUnprefixed :=
  SuffixSchema.namesUnprefixed (by unfold IsUnprefixed; decide)

/-- A negated disjunction of a difference and of an empty conjunction has alternatives. -/
example : (Filter.not (.any [.test Resource.title (.comparison .notEqual (.text "a")),
    .all []])).IsPlaced Resource.schema.schema :=
  Filter.isPlaced_of_hasAlternatives Resource.namesUnprefixed rfl

end CatalogSearch
