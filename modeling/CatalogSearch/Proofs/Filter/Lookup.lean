import CatalogSearch.Proofs.Filter.Writing
import CatalogSearch.Schema.Resource

/-!
# Filters that name the records they want

A filter that is nothing but identifiers joined by disjunctions can be answered by looking these
identifiers up. The verdict and the identifiers come from two separate readings of the filter.

- `Filter.IsIdChoice`: an identifier test, or a disjunction of such filters.
- `Filter.idLiterals`: the identifiers that a filter compares records with, wherever they stand.
- `Filter.isLookup_eq_ok`: the verdict is exact.
- `Filter.write_identifies`: the two readings agree with the meaning of the filter.
-/

namespace CatalogSearch

namespace Filter

/-- A filter that names the records it wants: it tests the identifier, or it is a disjunction of
such filters, of one at least. -/
inductive IsIdChoice : Filter → Prop where
  | test (s : String) : IsIdChoice (.test Metacard.idAttribute (.comparison .equal (.text s)))
  | any {children : List Filter} (hne : children ≠ []) (h : ∀ f ∈ children, IsIdChoice f) :
    IsIdChoice (.any children)

/-- The texts that tests ask the identifier to equal, from left to right. -/
def idLiterals : Filter → List String
  | all children => idLiteralsOf children
  | any children => idLiteralsOf children
  | not child => idLiterals child
  | test property (.comparison .equal (.text s)) =>
    if property = Metacard.idAttribute then [s] else []
  | test _ _ => []
where
  /-- The texts of several filters. -/
  idLiteralsOf : List Filter → List String
    | [] => []
    | f :: fs => idLiterals f ++ idLiteralsOf fs

theorem idLiteralsOf_eq (fs : List Filter) :
    idLiterals.idLiteralsOf fs = fs.flatMap idLiterals := by
  induction fs with
  | nil => rfl
  | cons f fs ih => rw [idLiterals.idLiteralsOf, ih, List.flatMap_cons]

/-! ## The identifiers that are noted -/

/-- A test notes the identifier that it asks for. -/
theorem toList_id? (property : String) (wanted : Test) :
    (wanted.id? property).toList = idLiterals (.test property wanted) := by
  unfold Test.id?
  split
  · next s =>
    rw [idLiterals]
    split <;> rfl
  · next hne =>
    rw [idLiterals]
    · rfl
    · rintro s rfl
      exact hne s rfl

mutual

/-- The tests of a filter note its identifiers. -/
theorem flatMap_id?_tests :
    ∀ f : Filter, f.tests.flatMap (fun e => (e.2.id? e.1).toList) = f.idLiterals
  | .all children => flatMap_id?_testsOf children
  | .any children => flatMap_id?_testsOf children
  | .not child => flatMap_id?_tests child
  | .test property wanted => by
    rw [← toList_id?]
    exact List.flatMap_singleton _ _

theorem flatMap_id?_testsOf :
    ∀ fs : List Filter, (tests.testsOf fs).flatMap (fun e => (e.2.id? e.1).toList) =
      idLiterals.idLiteralsOf fs
  | [] => rfl
  | f :: fs => by
    rw [tests.testsOf, List.flatMap_append, flatMap_id?_tests f, flatMap_id?_testsOf fs]
    rfl

end

/-- What several tests note of identifiers comes after what was noted before. -/
theorem ids_noteAll (w : ClauseWriter) (tests : List (String × Test)) (found : Findings) :
    (w.noteAll tests found).ids =
      found.ids ++ tests.flatMap fun e => (e.2.id? e.1).toList := by
  induction tests generalizing found with
  | nil => exact (List.append_nil _).symm
  | cons e tests ih =>
    show (w.noteAll tests (w.note e.1 e.2 found)).ids = _
    rw [ih, List.flatMap_cons, ← List.append_assoc]
    rfl

/-- A written filter has noted its identifiers, each as often as it is asked for. -/
theorem ids_of_write {w : ClauseWriter} {f : Filter} {text : String} {found : Findings}
    (h : w.write f = (.ok text, found)) : found.ids = f.idLiterals := by
  obtain ⟨-, -, rfl⟩ := ClauseWriter.write_eq_ok_iff.mp h
  rw [ids_noteAll, flatMap_id?_tests]
  rfl

/-! ## The verdict -/

theorem not_isIdChoice_all (children : List Filter) : ¬ (all children).IsIdChoice := by
  intro h
  cases h

theorem not_isIdChoice_not (child : Filter) : ¬ (not child).IsIdChoice := by
  intro h
  cases h

theorem isIdChoice_any_iff {children : List Filter} :
    (any children).IsIdChoice ↔ children ≠ [] ∧ ∀ f ∈ children, f.IsIdChoice := by
  constructor
  · intro h
    cases h with
    | any hne h => exact ⟨hne, h⟩
  · rintro ⟨hne, h⟩
    exact .any hne h

theorem isIdChoice_test_iff {property : String} {wanted : Test} :
    (test property wanted).IsIdChoice ↔ (wanted.id? property).isSome := by
  constructor
  · intro h
    cases h with
    | test s => rfl
  · intro h
    unfold Test.id? at h
    split at h
    · next s =>
      by_cases hid : property = Metacard.idAttribute
      · subst hid
        exact .test s
      · rw [if_neg hid] at h
        cases h
    · cases h

theorem guardLevel_eq_ok {level : Nat} (h : level ≤ maxFilterDepth) :
    (Reading.guardLevel level : Except Failure Unit) = .ok () :=
  if_neg (Nat.not_lt.mpr h)

mutual

/-- No level is too deep, so there is a verdict, and it is that the filter names its records iff
it does. -/
theorem readAt_lookup :
    ∀ (f : Filter) (level : Nat), level + f.depth ≤ maxFilterDepth + 1 →
      ∃ verdict, Reading.readAt lookupReading level f = .ok verdict ∧
        (verdict = true ↔ f.IsIdChoice)
  | .all children, level, h => by
    -- the children are read although nothing depends on their verdicts
    obtain ⟨hlevel, hchildren⟩ := fits_iff.mp h
    obtain ⟨verdicts, hread, -⟩ := readAllAt_lookup children (level + 1) hchildren
    refine ⟨false, ?_, ?_⟩
    · rw [Reading.readAt, guardLevel_eq_ok hlevel, hread]
      rfl
    · exact iff_of_false Bool.false_ne_true (not_isIdChoice_all children)
  | .any children, level, h => by
    obtain ⟨hlevel, hchildren⟩ := fits_iff.mp h
    obtain ⟨verdicts, hread, hempty, hverdicts⟩ := readAllAt_lookup children (level + 1) hchildren
    refine ⟨!verdicts.isEmpty && verdicts.all id, ?_, ?_⟩
    · rw [Reading.readAt, guardLevel_eq_ok hlevel, hread]
      rfl
    · rw [isIdChoice_any_iff, ← hverdicts, Bool.and_eq_true, Bool.not_eq_true',
        List.isEmpty_eq_false_iff, ne_eq, hempty]
  | .not child, level, h => by
    have hdepth : level + (child.depth + 1) ≤ maxFilterDepth + 1 := h
    obtain ⟨verdict, hread, -⟩ := readAt_lookup child (level + 1) (by omega)
    refine ⟨false, ?_, ?_⟩
    · rw [Reading.readAt, guardLevel_eq_ok (by omega), hread]
      rfl
    · exact iff_of_false Bool.false_ne_true (not_isIdChoice_not child)
  | .test property wanted, level, h => by
    refine ⟨(wanted.id? property).isSome, ?_, isIdChoice_test_iff.symm⟩
    rw [Reading.readAt, guardLevel_eq_ok (Nat.le_of_succ_le_succ h)]
    rfl

/-- The verdicts on several filters at a level. -/
theorem readAllAt_lookup :
    ∀ (fs : List Filter) (level : Nat), (∀ f ∈ fs, level + f.depth ≤ maxFilterDepth + 1) →
      ∃ verdicts, Reading.readAllAt lookupReading level fs = .ok verdicts ∧
        (verdicts = [] ↔ fs = []) ∧ (verdicts.all id = true ↔ ∀ f ∈ fs, f.IsIdChoice)
  | [], level, h => ⟨[], rfl, iff_of_true rfl rfl, iff_of_true rfl (List.forall_mem_nil _)⟩
  | f :: fs, level, h => by
    obtain ⟨hf, hfs⟩ := List.forall_mem_cons.mp h
    obtain ⟨verdict, hread, hverdict⟩ := readAt_lookup f level hf
    obtain ⟨verdicts, hreads, -, hverdicts⟩ := readAllAt_lookup fs level hfs
    refine ⟨verdict :: verdicts, ?_, ?_, ?_⟩
    · rw [Reading.readAllAt, hread, hreads]
      rfl
    · exact iff_of_false (List.cons_ne_nil _ _) (List.cons_ne_nil _ _)
    · rw [List.all_cons, Bool.and_eq_true, List.forall_mem_cons, hverdicts]
      exact and_congr_left' hverdict

end

/-- There is a verdict on every filter that is not too deep, and it is exact. -/
theorem isLookup_eq_ok {f : Filter} (h : f.depth ≤ maxFilterDepth) :
    ∃ verdict, f.isLookup = .ok verdict ∧ (verdict = true ↔ f.IsIdChoice) :=
  readAt_lookup f 1 (by omega)

/-! ## The records that are named -/

namespace IsIdChoice

variable {f : Filter}

theorem idLiterals_ne_nil (h : f.IsIdChoice) : f.idLiterals ≠ [] := by
  induction h with
  | test s => exact List.cons_ne_nil s []
  | @any children hne h ih =>
    obtain ⟨first, rest, rfl⟩ := List.exists_cons_of_ne_nil hne
    have hfirst : first.idLiterals ≠ [] := ih first (List.mem_cons_self ..)
    exact List.append_ne_nil_of_left_ne_nil hfirst _

/-- A record passes such a filter iff its identifier is among those of the filter. -/
theorem holds_iff (h : f.IsIdChoice) {truth : String → Test → Bool} {recordId : String}
    (htruth : ∀ s, truth Metacard.idAttribute (.comparison .equal (.text s)) =
      decide (recordId = s)) :
    f.holds truth = true ↔ recordId ∈ f.idLiterals := by
  induction h with
  | test s =>
    show truth _ _ = true ↔ recordId ∈ [s]
    rw [htruth, decide_eq_true_iff, List.mem_singleton]
  | @any children hne h ih =>
    show holds.anyHolds truth children = true ↔ recordId ∈ idLiterals.idLiteralsOf children
    rw [anyHolds_eq, idLiteralsOf_eq, List.any_eq_true, List.mem_flatMap]
    exact exists_congr fun f => and_congr_right (ih f)

end IsIdChoice

end Filter

/-- What a written filter says of identifiers is what the filter says of them. -/
structure WrittenFilter.Identifies (written : WrittenFilter) (f : Filter) : Prop where
  /-- The identifiers are the literals of the identifier tests, wherever these stand. -/
  ids : written.ids = f.idLiterals
  /-- The verdict is exact. -/
  verdict : written.isLookup = true ↔ f.IsIdChoice
  /-- A look-up asks for some identifier. -/
  named : written.isLookup = true → written.ids ≠ []
  /-- A look-up asks for the records that pass the filter, and for no other. -/
  exact : written.isLookup = true → ∀ (truth : String → Test → Bool) (recordId : String),
    (∀ s, truth Metacard.idAttribute (.comparison .equal (.text s)) = decide (recordId = s)) →
      (f.holds truth = true ↔ recordId ∈ written.ids)

/-- The identifiers of a written filter come from the writing of its text, and its verdict from a
reading of its own. -/
theorem Filter.readings_of_write {schema : Schema} {f : Filter} {sorts : List SortBy}
    {written : WrittenFilter} (h : f.write schema sorts = .ok written) :
    ∃ text found, ClauseWriter.write ⟨schema, sorts.any (·.isByDistance schema)⟩ f =
        (.ok text, found) ∧ written.ids = found.ids ∧ f.isLookup = .ok written.isLookup := by
  obtain ⟨text, found, verdict, hwrite, hverdict, rfl⟩ := write_eq_ok_iff.mp h
  exact ⟨text, found, hwrite, rfl, hverdict⟩

/-- **Exact look-ups.** A filter with a query text also gets a verdict, and what is said of its
identifiers is right. -/
theorem Filter.write_identifies (schema : Schema) (f : Filter) (sorts : List SortBy) :
    (∀ text found, ClauseWriter.write ⟨schema, sorts.any (·.isByDistance schema)⟩ f =
        (.ok text, found) →
      (∃ verdict, f.isLookup = .ok verdict) ∧ ∃ written, f.write schema sorts = .ok written) ∧
    ∀ written, f.write schema sorts = .ok written → written.Identifies f := by
  constructor
  · intro text found hwrite
    obtain ⟨hdepth, -, -⟩ := ClauseWriter.write_eq_ok_iff.mp hwrite
    obtain ⟨verdict, hverdict, -⟩ := isLookup_eq_ok hdepth
    refine ⟨⟨verdict, hverdict⟩, ?_⟩
    unfold Filter.write
    dsimp only
    rw [hwrite, hverdict]
    exact ⟨_, rfl⟩
  · intro written h
    obtain ⟨text, found, hwrite, hids, hlookup⟩ := readings_of_write h
    obtain ⟨hdepth, -, -⟩ := ClauseWriter.write_eq_ok_iff.mp hwrite
    obtain ⟨verdict, hverdict, hexact⟩ := isLookup_eq_ok hdepth
    obtain rfl : verdict = written.isLookup := Except.ok.inj (hverdict.symm.trans hlookup)
    have hliterals : written.ids = f.idLiterals := hids.trans (ids_of_write hwrite)
    refine ⟨hliterals, hexact, fun hv => ?_, fun hv truth recordId htruth => ?_⟩
    · rw [hliterals]
      exact (hexact.mp hv).idLiterals_ne_nil
    · rw [hliterals]
      exact (hexact.mp hv).holds_iff htruth

/-- Three identifiers, one of them named twice at different depths. -/
def nestedChoice : Filter :=
  .any [
    .test Metacard.idAttribute (.comparison .equal (.text "a")),
    .any [.test Metacard.idAttribute (.comparison .equal (.text "b")),
      .test Metacard.idAttribute (.comparison .equal (.text "a"))]]

theorem Filter.write_identifies_nested :
    ∃ written, nestedChoice.write Resource.schema.schema [] = .ok written ∧
      written.isLookup = true ∧ written.ids = ["a", "b", "a"] ∧ written.ids ≠ [] ∧
      ∀ truth : String → Test → Bool,
        (∀ s, truth Metacard.idAttribute (.comparison .equal (.text s)) = decide ("b" = s)) →
        (nestedChoice.holds truth = true ↔ "b" ∈ written.ids) := by
  have hwrite : ClauseWriter.write ⟨Resource.schema.schema, false⟩ nestedChoice =
      (.ok "(id_txt:\"a\" OR (id_txt:\"b\" OR id_txt:\"a\"))", { ids := ["a", "b", "a"] }) := rfl
  obtain ⟨accepted, identifies⟩ := write_identifies Resource.schema.schema nestedChoice []
  obtain ⟨-, written, hwritten⟩ := accepted _ _ hwrite
  obtain ⟨hids, hverdict, hnamed, hexact⟩ := identifies written hwritten
  have hlookup : written.isLookup = true := by
    refine hverdict.mpr (.any (List.cons_ne_nil _ _) ?_)
    simp only [List.forall_mem_cons, List.not_mem_nil, false_implies, implies_true, and_true]
    refine ⟨.test "a", .any (List.cons_ne_nil _ _) ?_⟩
    simp only [List.forall_mem_cons, List.not_mem_nil, false_implies, implies_true, and_true]
    exact ⟨.test "b", .test "a"⟩
  exact ⟨written, hwritten, hlookup, hids, hnamed hlookup,
    fun truth htruth => hexact hlookup truth "b" htruth⟩

end CatalogSearch
