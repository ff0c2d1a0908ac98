import CatalogSearch.Proofs.Filter.Lookup

/-!
# Why a filter is refused

A filter that cannot be written is refused before anything is asked, for its levels or for one of
its tests.

- `Test.instants`: the instants that a test names.
- `Filter.Refusal`: every reason that tests give, with the failure it leads to.
- `Filter.refusal_of_write`: a filter that is not written is refused for such a reason.
-/

namespace CatalogSearch

/-- The instants that a temporal test names. -/
def Temporal.instants : Temporal → List Instant
  | before instant => [instant]
  | after instant => [instant]
  | during start finish => [start, finish]

/-- The instants that a test names. -/
def Test.instants : Test → List Instant
  | temporal op => op.instants
  | _ => []

namespace Filter

/-- Why a filter with these tests is refused. -/
inductive Refusal (schema : Schema) (tests : List (String × Test)) : Failure → Prop where
  /-- There are too many levels. -/
  | tooDeep : Refusal schema tests (.invalidRequest .filterTooDeep)
  /-- There is no field for a test. -/
  | noField {property : String} {wanted : Test} (hmem : (property, wanted) ∈ tests)
    (hfield : wanted.field? schema property = none) :
    Refusal schema tests (.unsupportedQuery .search (.noField property))
  /-- The year of an instant cannot be written. -/
  | instantYear : Refusal schema tests (.invalidRequest .instantYear)
  /-- A test names an instant outside the calendar. -/
  | beyondCalendar {property : String} {wanted : Test} (hmem : (property, wanted) ∈ tests)
    {instant : Instant} (hinstant : instant ∈ wanted.instants) (hutc : instant.toUtc? = none) :
    Refusal schema tests (.defect .beyondCalendar)

/-- A reason stays one among more tests. -/
theorem Refusal.mono {schema : Schema} {tests more : List (String × Test)} {failure : Failure}
    (h : Refusal schema tests failure) (hsub : tests ⊆ more) : Refusal schema more failure := by
  cases h with
  | tooDeep => exact .tooDeep
  | noField hmem hfield => exact .noField (hsub hmem) hfield
  | instantYear => exact .instantYear
  | beyondCalendar hmem hinstant hutc => exact .beyondCalendar (hsub hmem) hinstant hutc

end Filter

/-! ## Tests -/

theorem Instant.term_eq_error {i : Instant} {failure : Failure} (h : i.term = .error failure) :
    failure = .invalidRequest .instantYear ∨
      failure = .defect .beyondCalendar ∧ i.toUtc? = none := by
  unfold term utcText at h
  cases hutc : i.toUtc? with
  | none =>
    rw [hutc] at h
    cases h
    exact .inr ⟨rfl, rfl⟩
  | some u =>
    rw [hutc] at h
    dsimp only at h
    by_cases hyear : u.date.year < 0
    · rw [if_pos hyear] at h
      cases h
      exact .inl rfl
    · rw [if_neg hyear] at h
      cases h

/-- A temporal test has no clause if one of its instants cannot be written. -/
theorem Temporal.clause_eq_error {op : Temporal} {field : String} {failure : Failure}
    (h : op.clause field = .error failure) :
    ∃ instant ∈ op.instants, instant.term = .error failure := by
  cases op with
  | before instant =>
    rcases bind_eq_error h with hterm | ⟨_, -, h⟩
    · exact ⟨instant, .head _, hterm⟩
    · cases h
  | after instant =>
    rcases bind_eq_error h with hterm | ⟨_, -, h⟩
    · exact ⟨instant, .head _, hterm⟩
    · cases h
  | during start finish =>
    rcases bind_eq_error h with hterm | ⟨_, -, h⟩
    · exact ⟨start, .head _, hterm⟩
    rcases bind_eq_error h with hterm | ⟨_, -, h⟩
    · exact ⟨finish, .tail _ (.head _), hterm⟩
    · cases h

/-- Only temporal tests have fields and no clause. -/
theorem Test.clause_eq_error {test : Test} {field : String} {failure : Failure}
    (h : test.clause field = .error failure) :
    ∃ instant ∈ test.instants, instant.term = .error failure := by
  cases test with
  | comparison op value => cases h
  | spatial op => cases h
  | temporal op => exact Temporal.clause_eq_error h
  | text wanted => cases h

namespace ClauseWriter

variable {w : ClauseWriter} {failure : Failure}

theorem refusal_of_testClause {property : String} {test : Test} {found after : Findings}
    (h : (w.testClause property test).run found = (.error failure, after)) :
    Filter.Refusal w.schema [(property, test)] failure := by
  unfold testClause at h
  cases hfield : test.field? w.schema property with
  | none =>
    rw [hfield] at h
    cases h
    exact .noField (.head _) hfield
  | some field =>
    rw [hfield] at h
    dsimp only at h
    cases hclause : test.clause field with
    | error fault =>
      rw [hclause] at h
      cases h
      obtain ⟨instant, hinstant, hterm⟩ := Test.clause_eq_error hclause
      rcases Instant.term_eq_error hterm with rfl | ⟨rfl, hutc⟩
      · exact .instantYear
      · exact .beyondCalendar (.head _) hinstant hutc
    | ok clause =>
      rw [hclause] at h
      cases h

/-! ## Filters -/

/-- A level that is refused is too deep. -/
theorem guardLevel_eq_error {level : Nat} {found after : Findings}
    (h : (Reading.guardLevel level : ClauseM Unit).run found = (.error failure, after)) :
    failure = .invalidRequest .filterTooDeep := by
  unfold Reading.guardLevel at h
  split at h
  · cases h
    rfl
  · cases h

/-- A node is refused for its level or for what is below it. -/
theorem refusal_of_node {α : Type} {tests : List (String × Test)} {level : Nat}
    {children : ClauseM α} {finish : α → String} {found after : Findings}
    (hchildren : ∀ found after, children.run found = (.error failure, after) →
      Filter.Refusal w.schema tests failure)
    (h : (do Reading.guardLevel level
             let answers ← children
             return finish answers : ClauseM String).run found = (.error failure, after)) :
    Filter.Refusal w.schema tests failure := by
  rcases bind_run_eq_error h with hlevel | ⟨_, between, -, h⟩
  · rw [guardLevel_eq_error hlevel]
    exact .tooDeep
  rcases bind_run_eq_error h with hrun | ⟨_, last, -, h⟩
  · exact hchildren between after hrun
  · cases h

mutual

/-- A filter that is not written at a level is refused. -/
theorem refusal_of_readAt :
    ∀ (f : Filter) (level : Nat) (found after : Findings),
      (Reading.readAt w.reading level f).run found = (.error failure, after) →
        Filter.Refusal w.schema f.tests failure
  | .all children, level, found, after, h => by
    rw [Reading.readAt] at h
    exact refusal_of_node (refusal_of_readAllAt children (level + 1)) h
  | .any children, level, found, after, h => by
    rw [Reading.readAt] at h
    exact refusal_of_node (refusal_of_readAllAt children (level + 1)) h
  | .not child, level, found, after, h => by
    rw [Reading.readAt] at h
    exact refusal_of_node (refusal_of_readAt child (level + 1)) h
  | .test property wanted, level, found, after, h => by
    rw [Reading.readAt] at h
    rcases bind_run_eq_error h with hlevel | ⟨_, between, -, hclause⟩
    · rw [guardLevel_eq_error hlevel]
      exact .tooDeep
    · exact refusal_of_testClause hclause

/-- Several filters that are not written at a level are refused. -/
theorem refusal_of_readAllAt :
    ∀ (fs : List Filter) (level : Nat) (found after : Findings),
      (Reading.readAllAt w.reading level fs).run found = (.error failure, after) →
        Filter.Refusal w.schema (Filter.tests.testsOf fs) failure
  | [], level, found, after, h => by
    rw [Reading.readAllAt] at h
    cases h
  | f :: fs, level, found, after, h => by
    rw [Reading.readAllAt] at h
    rcases bind_run_eq_error h with hf | ⟨_, between, -, h⟩
    · exact (refusal_of_readAt f level found after hf).mono (List.subset_append_left _ _)
    rcases bind_run_eq_error h with hfs | ⟨_, last, -, h⟩
    · exact (refusal_of_readAllAt fs level between after hfs).mono
        (List.subset_append_right _ _)
    · cases h

end

end ClauseWriter

/-- A filter that is not written is refused for its levels or for one of its tests. -/
theorem Filter.refusal_of_write {schema : Schema} {f : Filter} {sorts : List SortBy}
    {failure : Failure} (h : f.write schema sorts = .error failure) :
    Refusal schema f.tests failure := by
  unfold write at h
  dsimp only at h
  split at h
  · next fault found hwrite =>
    cases h
    exact ClauseWriter.refusal_of_readAt f 1 {} found hwrite
  · next text found hwrite =>
    -- a filter with a text is not too deep, so there is a verdict on it
    obtain ⟨hdepth, -, -⟩ := ClauseWriter.write_eq_ok_iff.mp hwrite
    obtain ⟨verdict, hverdict, -⟩ := isLookup_eq_ok hdepth
    rw [hverdict] at h
    cases h

end CatalogSearch
