import CatalogSearch.Proofs.Filter.Evaluation
import CatalogSearch.Proofs.Outcomes

/-!
# When a filter is written

Writing a filter checks the levels, writes every test, and notes what the tests add on the way.
It comes to nothing if there are too many levels or if some test has no clause, and only then.

- `Filter.text?`: the query text of a filter, if every test has a clause.
- `ClauseWriter.noteAll`: what several tests add, from left to right.
- `ClauseWriter.write_eq_ok_iff`: when a filter is written, with the text and what was noted.
- `Filter.write_eq_ok_iff`: a written filter is the text, what was noted, and the verdict.
-/

namespace CatalogSearch

/-- The clause of a test on a property, if there is a field for it and it can be written. -/
def Test.clause? (schema : Schema) (property : String) (test : Test) : Option String :=
  (test.field? schema property).bind fun field => (test.clause field).toOption

namespace Filter

mutual

/-- The query text of a filter, if every test has a clause. -/
def text? (schema : Schema) : Filter → Option String
  | all children => (texts? schema children).map Clause.conjunction
  | any children => (texts? schema children).map Clause.disjunction
  | not child => (text? schema child).map Clause.negation
  | test property wanted => wanted.clause? schema property

/-- The query texts of several filters, if every test has a clause. -/
def texts? (schema : Schema) : List Filter → Option (List String)
  | [] => some []
  | f :: fs => (text? schema f).bind fun text => (texts? schema fs).map (text :: ·)

end

/-- Every test of the filter has a clause. -/
def IsExpressible (schema : Schema) (f : Filter) : Prop :=
  ∀ e ∈ f.tests, (e.2.clause? schema e.1).isSome

mutual

/-- A filter has a query text iff every test has a clause. -/
theorem isSome_text?_iff (schema : Schema) :
    ∀ f : Filter, (f.text? schema).isSome ↔ f.IsExpressible schema
  | .all children => by
    rw [text?, Option.isSome_map]
    exact isSome_texts?_iff schema children
  | .any children => by
    rw [text?, Option.isSome_map]
    exact isSome_texts?_iff schema children
  | .not child => by
    rw [text?, Option.isSome_map]
    exact isSome_text?_iff schema child
  | .test property wanted => by
    show (wanted.clause? schema property).isSome ↔ ∀ e ∈ [(property, wanted)], _
    rw [List.forall_mem_singleton]

/-- Several filters have query texts iff every test of each has a clause. -/
theorem isSome_texts?_iff (schema : Schema) :
    ∀ fs : List Filter, (texts? schema fs).isSome ↔
      ∀ e ∈ tests.testsOf fs, (e.2.clause? schema e.1).isSome
  | [] => by simp [texts?, tests.testsOf]
  | f :: fs => by
    have hf := isSome_text?_iff schema f
    have hfs := isSome_texts?_iff schema fs
    rw [texts?, tests.testsOf, List.forall_mem_append]
    rw [← hfs]
    cases htext : f.text? schema with
    | none =>
      have hnot : ¬ f.IsExpressible schema := by
        rw [← hf, htext]
        exact Bool.false_ne_true
      exact iff_of_false Bool.false_ne_true fun h => hnot h.1
    | some text =>
      have hall : f.IsExpressible schema := by
        rw [← hf, htext]
        rfl
      rw [Option.bind_some, Option.isSome_map]
      exact (and_iff_right hall).symm

end

/-- A node passes with its children iff its own level passes and no child is too deep below. -/
theorem fits_iff {children : List Filter} {level : Nat} :
    level + (depth.depths children + 1) ≤ maxFilterDepth + 1 ↔
      level ≤ maxFilterDepth ∧ ∀ f ∈ children, level + 1 + f.depth ≤ maxFilterDepth + 1 := by
  constructor
  · intro h
    refine ⟨by omega, fun f hf => ?_⟩
    have hdepth := depths_le_iff.mp (Nat.le_refl _) f hf
    omega
  · rintro ⟨hle, h⟩
    have hdepths : depth.depths children ≤ maxFilterDepth - level := by
      refine depths_le_iff.mpr fun f hf => ?_
      have hdepth := h f hf
      omega
    omega

end Filter

/-! ## Writing -/

namespace ClauseM

variable {found after : Findings}

/-- A level passes iff a filter may have it; nothing is noted of it. -/
theorem guardLevel_run_eq_ok_iff {level : Nat} {u : Unit} :
    (Reading.guardLevel level : ClauseM Unit).run found = (.ok u, after) ↔
      level ≤ maxFilterDepth ∧ after = found := by
  unfold Reading.guardLevel
  by_cases h : maxFilterDepth < level
  · rw [if_pos h]
    refine iff_of_false (fun heq => ?_) fun hle => Nat.not_le_of_lt h hle.1
    cases heq
  · rw [if_neg h]
    have hle : level ≤ maxFilterDepth := Nat.le_of_not_lt h
    refine ⟨fun heq => ?_, ?_⟩
    · cases heq
      exact ⟨hle, rfl⟩
    · rintro ⟨-, rfl⟩
      rfl

/-- A node is written at a level that passes, after its children. -/
theorem node_run_eq_ok_iff {α : Type} {level : Nat} {children : ClauseM α} {text : String}
    (finish : α → String) :
    (do Reading.guardLevel level
        let answers ← children
        return finish answers : ClauseM String).run found = (.ok text, after) ↔
      level ≤ maxFilterDepth ∧
        ∃ answers, children.run found = (.ok answers, after) ∧ text = finish answers := by
  rw [bind_run_eq_ok_iff]
  constructor
  · rintro ⟨u, between, hguard, h⟩
    obtain ⟨hle, rfl⟩ := guardLevel_run_eq_ok_iff.mp hguard
    obtain ⟨answers, last, hanswers, h⟩ := bind_run_eq_ok_iff.mp h
    cases h
    exact ⟨hle, answers, hanswers, rfl⟩
  · rintro ⟨hle, answers, hanswers, rfl⟩
    refine ⟨(), found, guardLevel_run_eq_ok_iff.mpr ⟨hle, rfl⟩, ?_⟩
    exact bind_run_eq_ok_iff.mpr ⟨answers, after, hanswers, rfl⟩

end ClauseM

namespace ClauseWriter

variable {w : ClauseWriter}

/-- What several tests add to what was noted before, from left to right. -/
def noteAll (w : ClauseWriter) (tests : List (String × Test)) (found : Findings) : Findings :=
  tests.foldl (fun found e => w.note e.1 e.2 found) found

theorem noteAll_append (tests more : List (String × Test)) (found : Findings) :
    w.noteAll (tests ++ more) found = w.noteAll more (w.noteAll tests found) :=
  List.foldl_append

/-- A test is written iff it has a clause, and what it adds is noted then. -/
theorem testClause_run_eq_ok_iff {property : String} {test : Test} {found after : Findings}
    {text : String} :
    (w.testClause property test).run found = (.ok text, after) ↔
      test.clause? w.schema property = some text ∧ after = w.note property test found := by
  unfold testClause Test.clause?
  cases test.field? w.schema property with
  | none => exact iff_of_false (fun h => nomatch h) fun h => nomatch h.1
  | some field =>
    dsimp only [Option.bind_some]
    cases test.clause field with
    | error failure => exact iff_of_false (fun h => nomatch h) fun h => nomatch h.1
    | ok clause =>
      refine ⟨fun h => ?_, ?_⟩
      · cases h
        exact ⟨rfl, rfl⟩
      · rintro ⟨hclause, rfl⟩
        cases hclause
        rfl

/-- A node above others is written iff the level passes and they are. -/
theorem group_run_eq_ok_iff {children : List Filter} {level : Nat} {found after : Findings}
    {text : String} (finish : List String → String)
    (hchildren : ∀ texts, (Reading.readAllAt w.reading (level + 1) children).run found =
        (.ok texts, after) ↔
      (∀ f ∈ children, level + 1 + f.depth ≤ maxFilterDepth + 1) ∧
        Filter.texts? w.schema children = some texts ∧
        after = w.noteAll (Filter.tests.testsOf children) found) :
    (do Reading.guardLevel level
        let answers ← Reading.readAllAt w.reading (level + 1) children
        return finish answers : ClauseM String).run found = (.ok text, after) ↔
      level + (Filter.depth.depths children + 1) ≤ maxFilterDepth + 1 ∧
        (Filter.texts? w.schema children).map finish = some text ∧
        after = w.noteAll (Filter.tests.testsOf children) found := by
  rw [ClauseM.node_run_eq_ok_iff, Filter.fits_iff, Option.map_eq_some_iff]
  constructor
  · rintro ⟨hle, texts, hrun, rfl⟩
    obtain ⟨hdepth, htexts, hafter⟩ := (hchildren texts).mp hrun
    exact ⟨⟨hle, hdepth⟩, ⟨texts, htexts, rfl⟩, hafter⟩
  · rintro ⟨⟨hle, hdepth⟩, ⟨texts, htexts, rfl⟩, hafter⟩
    exact ⟨hle, texts, (hchildren texts).mpr ⟨hdepth, htexts, hafter⟩, rfl⟩

mutual

/-- A filter whose root is at a level is written iff no level is too deep and every test has a
clause. -/
theorem readAt_run_eq_ok_iff :
    ∀ (f : Filter) (level : Nat) (found after : Findings) (text : String),
      (Reading.readAt w.reading level f).run found = (.ok text, after) ↔
        level + f.depth ≤ maxFilterDepth + 1 ∧ f.text? w.schema = some text ∧
          after = w.noteAll f.tests found
  | .all children, level, found, after, text => by
    have hchildren := readAllAt_run_eq_ok_iff children (level + 1) found after
    rw [Reading.readAt, Filter.text?]
    exact group_run_eq_ok_iff Clause.conjunction hchildren
  | .any children, level, found, after, text => by
    have hchildren := readAllAt_run_eq_ok_iff children (level + 1) found after
    rw [Reading.readAt, Filter.text?]
    exact group_run_eq_ok_iff Clause.disjunction hchildren
  | .not child, level, found, after, text => by
    have hchild := readAt_run_eq_ok_iff child (level + 1) found after
    have hdepth : level + (child.depth + 1) ≤ maxFilterDepth + 1 ↔
        level ≤ maxFilterDepth ∧ level + 1 + child.depth ≤ maxFilterDepth + 1 := by
      omega
    rw [Reading.readAt, Filter.text?]
    refine (ClauseM.node_run_eq_ok_iff Clause.negation).trans ?_
    show _ ↔ level + (child.depth + 1) ≤ maxFilterDepth + 1 ∧ _ ∧ _
    rw [hdepth, Option.map_eq_some_iff]
    constructor
    · rintro ⟨hle, clause, hrun, rfl⟩
      obtain ⟨hfits, hclause, hafter⟩ := (hchild clause).mp hrun
      exact ⟨⟨hle, hfits⟩, ⟨clause, hclause, rfl⟩, hafter⟩
    · rintro ⟨⟨hle, hfits⟩, ⟨clause, hclause, rfl⟩, hafter⟩
      exact ⟨hle, clause, (hchild clause).mpr ⟨hfits, hclause, hafter⟩, rfl⟩
  | .test property wanted, level, found, after, text => by
    have hdepth : level + 1 ≤ maxFilterDepth + 1 ↔ level ≤ maxFilterDepth := Nat.succ_le_succ_iff
    rw [Reading.readAt, Filter.text?, ClauseM.bind_run_eq_ok_iff]
    show _ ↔ level + 1 ≤ maxFilterDepth + 1 ∧ _ ∧ after = w.note property wanted found
    rw [hdepth]
    constructor
    · rintro ⟨u, between, hguard, h⟩
      obtain ⟨hle, rfl⟩ := ClauseM.guardLevel_run_eq_ok_iff.mp hguard
      exact ⟨hle, testClause_run_eq_ok_iff.mp h⟩
    · rintro ⟨hle, hclause⟩
      exact ⟨(), found, ClauseM.guardLevel_run_eq_ok_iff.mpr ⟨hle, rfl⟩,
        testClause_run_eq_ok_iff.mpr hclause⟩

/-- Several filters at a level are written iff each of them is. -/
theorem readAllAt_run_eq_ok_iff :
    ∀ (fs : List Filter) (level : Nat) (found after : Findings) (texts : List String),
      (Reading.readAllAt w.reading level fs).run found = (.ok texts, after) ↔
        (∀ f ∈ fs, level + f.depth ≤ maxFilterDepth + 1) ∧
          Filter.texts? w.schema fs = some texts ∧
          after = w.noteAll (Filter.tests.testsOf fs) found
  | [], level, found, after, texts => by
    rw [Reading.readAllAt, Filter.texts?, Filter.tests.testsOf]
    refine ⟨fun h => ?_, ?_⟩
    · cases h
      exact ⟨List.forall_mem_nil _, rfl, rfl⟩
    · rintro ⟨-, htexts, rfl⟩
      cases htexts
      rfl
  | f :: fs, level, found, after, texts => by
    have hf := readAt_run_eq_ok_iff f level
    have hfs := readAllAt_run_eq_ok_iff fs level
    rw [Reading.readAllAt, Filter.texts?, Filter.tests.testsOf, noteAll_append,
      List.forall_mem_cons, ClauseM.bind_run_eq_ok_iff, Option.bind_eq_some_iff]
    constructor
    · rintro ⟨text, between, hrun, h⟩
      obtain ⟨hdepth, htext, rfl⟩ := (hf found between text).mp hrun
      obtain ⟨rest, last, hrest, h⟩ := ClauseM.bind_run_eq_ok_iff.mp h
      cases h
      obtain ⟨hdepths, htexts, rfl⟩ := (hfs _ _ rest).mp hrest
      exact ⟨⟨hdepth, hdepths⟩, ⟨text, htext, Option.map_eq_some_iff.mpr ⟨rest, htexts, rfl⟩⟩, rfl⟩
    · rintro ⟨⟨hdepth, hdepths⟩, ⟨text, htext, h⟩, rfl⟩
      obtain ⟨rest, htexts, rfl⟩ := Option.map_eq_some_iff.mp h
      have hrest := (hfs (w.noteAll f.tests found) _ rest).mpr ⟨hdepths, htexts, rfl⟩
      exact ⟨text, _, (hf found _ text).mpr ⟨hdepth, htext, rfl⟩,
        ClauseM.bind_run_eq_ok_iff.mpr ⟨rest, _, hrest, rfl⟩⟩

end

/-- A filter is written iff it is not too deep and every test has a clause; what was noted is
what its tests add, from left to right. -/
theorem write_eq_ok_iff {f : Filter} {text : String} {found : Findings} :
    w.write f = (.ok text, found) ↔
      f.depth ≤ maxFilterDepth ∧ f.text? w.schema = some text ∧ found = w.noteAll f.tests {} := by
  have hroot : 1 + f.depth ≤ maxFilterDepth + 1 ↔ f.depth ≤ maxFilterDepth := by
    omega
  rw [← hroot]
  exact readAt_run_eq_ok_iff f 1 {} found text

/-- A filter that is not too deep, and whose tests all have a clause, is written. -/
theorem exists_write_eq_ok {f : Filter} (hdepth : f.depth ≤ maxFilterDepth)
    (htests : f.IsExpressible w.schema) : ∃ text found, w.write f = (.ok text, found) := by
  obtain ⟨text, htext⟩ := Option.isSome_iff_exists.mp ((Filter.isSome_text?_iff _ f).mpr htests)
  exact ⟨text, _, write_eq_ok_iff.mpr ⟨hdepth, htext, rfl⟩⟩

end ClauseWriter

/-- The writer for the fields of a schema and a list of sorts. -/
def ClauseWriter.forSorts (schema : Schema) (sorts : List SortBy) : ClauseWriter :=
  ⟨schema, sorts.any (·.isByDistance schema)⟩

/-- A filter is written iff it has a text and a verdict, and then it is these with what was noted
for the text. -/
theorem Filter.write_eq_ok_iff {schema : Schema} {f : Filter} {sorts : List SortBy}
    {written : WrittenFilter} :
    f.write schema sorts = .ok written ↔
      ∃ text found verdict, (ClauseWriter.forSorts schema sorts).write f = (.ok text, found) ∧
        f.isLookup = .ok verdict ∧
        written = ⟨.ofText text, found.origin, found.ids, verdict⟩ := by
  unfold write
  dsimp only
  constructor
  · intro h
    split at h
    · cases h
    · next text found hwrite =>
      obtain ⟨verdict, hverdict, h⟩ := exists_of_bind_eq_ok h
      cases h
      exact ⟨text, found, verdict, hwrite, hverdict, rfl⟩
  · rintro ⟨text, found, verdict, hwrite, hverdict, rfl⟩
    rw [show ClauseWriter.write ⟨schema, sorts.any (·.isByDistance schema)⟩ f = _ from hwrite,
      hverdict]
    rfl

end CatalogSearch
