import CatalogSearch.Proofs.Filter.Refusal
import CatalogSearch.Proofs.Sorting.Origin

/-!
# The first offence of a filter

Writing a filter enters its nodes one after the other, and stops at the first one that offends.

- `Filter.nodes`: the nodes in the order in which they are entered, each with its level.
- `Filter.Offends`: a node stands too deep, or it is a test without a field or without a text for
  one of its instants.
- `ClauseWriter.Walks`: nodes are gone through, or up to the first one that offends. Walks are put
  together (`Walks.append`), so that the walk of a filter follows its shape (`readAt_walks`).
- `ClauseWriter.write_ends`: what a filter needs to be written, the failure of one that is not, and
  what is noted until then.
-/

namespace CatalogSearch

/-! ## Offences -/

namespace Instant

/-- The year of the instant in UTC has a written form. -/
def HasYear (i : Instant) : Prop :=
  0 ≤ i.utc.date.year ∧ i.utc.date.year ≤ 9999

/-- Why an instant has no written form. -/
inductive Offends (i : Instant) : Failure → Prop where
  /-- It is before year zero. -/
  | early (hyear : i.utc.date.year < 0) (hcalendar : -9999 ≤ i.utc.date.year) :
    Offends i (.invalidRequest .instantYear)
  /-- It is outside the calendar, so there is no reading of it in UTC. -/
  | beyond (hcalendar : ¬ (-9999 ≤ i.utc.date.year ∧ i.utc.date.year ≤ 9999)) :
    Offends i (.defect .beyondCalendar)

theorem Offends.not_hasYear {i : Instant} {failure : Failure} (h : i.Offends failure) :
    ¬ i.HasYear := by
  intro hyear
  cases h with
  | early hneg _ => exact Int.not_lt.mpr hyear.1 hneg
  | beyond hcalendar => exact hcalendar ⟨by have := hyear.1; omega, hyear.2⟩

/-- An instant is written iff its year is; else it offends with the failure of its writing. -/
theorem term_cases (i : Instant) :
    (i.HasYear ∧ ∃ text, i.term = .ok text) ∨
      ∃ failure, i.term = .error failure ∧ i.Offends failure := by
  unfold term utcText toUtc?
  by_cases hcalendar : -lastYear ≤ i.utc.date.year ∧ i.utc.date.year ≤ lastYear
  · rw [if_pos hcalendar]
    by_cases hneg : i.utc.date.year < 0
    · simp only [hneg, if_true]
      exact .inr ⟨_, rfl, .early hneg hcalendar.1⟩
    · simp only [hneg, if_false]
      exact .inl ⟨⟨Int.not_lt.mp hneg, hcalendar.2⟩, _, rfl⟩
  · rw [if_neg hcalendar]
    exact .inr ⟨_, rfl, .beyond hcalendar⟩

end Instant

namespace Test

/-- Why a test on a property is not written. Its field is looked for before its instants are
written, and of two instants the first one counts. -/
inductive Offends (schema : Schema) (property : String) (wanted : Test) : Failure → Prop where
  /-- The schema has no field for the property. -/
  | noField (hfield : wanted.field? schema property = none) :
    Offends schema property wanted (.unsupportedQuery .search (.noField property))
  /-- An instant has no written form. -/
  | instant {field : String} (hfield : wanted.field? schema property = some field)
    {before after : List Instant} {i : Instant} {failure : Failure}
    (hsplit : wanted.instants = before ++ i :: after) (hbefore : ∀ j ∈ before, j.HasYear)
    (hi : i.Offends failure) : Offends schema property wanted failure

/-- The test has a field, and its instants have years. -/
def IsWritable (schema : Schema) (property : String) (wanted : Test) : Prop :=
  (∃ field, wanted.field? schema property = some field) ∧ ∀ i ∈ wanted.instants, i.HasYear

theorem Offends.not_isWritable {schema : Schema} {property : String} {wanted : Test}
    {failure : Failure} (h : wanted.Offends schema property failure) :
    ¬ wanted.IsWritable schema property := by
  rintro ⟨⟨field, hfield⟩, hyears⟩
  cases h with
  | noField hnone => cases hnone.symm.trans hfield
  | instant _ hsplit _ hi =>
    refine hi.not_hasYear (hyears _ ?_)
    rw [hsplit]
    exact List.mem_append_right _ (List.mem_cons_self ..)

end Test

/-! ## Instants in a row -/

/-- The instants are written, or one of them is the first that is not. -/
theorem Instant.mapM_term_cases (instants : List Instant) :
    ((∀ i ∈ instants, i.HasYear) ∧ ∃ texts, instants.mapM term = .ok texts) ∨
      ∃ failure before i after, instants.mapM term = .error failure ∧
        instants = before ++ i :: after ∧ (∀ j ∈ before, j.HasYear) ∧ i.Offends failure := by
  induction instants with
  | nil => exact .inl ⟨List.forall_mem_nil _, [], rfl⟩
  | cons i rest ih =>
    rw [List.mapM_cons]
    rcases i.term_cases with ⟨hyear, text, hterm⟩ | ⟨failure, hterm, hi⟩
    · rw [hterm]
      rcases ih with ⟨hyears, texts, hrest⟩ | ⟨failure, before, j, after, hrest, rfl, hbefore, hj⟩
      · rw [hrest]
        exact .inl ⟨List.forall_mem_cons.mpr ⟨hyear, hyears⟩, _, rfl⟩
      · rw [hrest]
        exact .inr ⟨failure, i :: before, j, after, rfl, rfl,
          List.forall_mem_cons.mpr ⟨hyear, hbefore⟩, hj⟩
    · rw [hterm]
      exact .inr ⟨failure, [], i, rest, rfl, rfl, List.forall_mem_nil _, hi⟩

/-- A temporal test writes its instants from left to right, and nothing else of it can fail. -/
theorem Temporal.clause_eq_map (op : Temporal) (field : String) :
    ∃ finish : List String → String,
      op.clause field = (op.instants.mapM Instant.term).map finish := by
  cases op with
  | before instant =>
    refine ⟨fun texts => Clause.onField field
      (Clause.range "[" Clause.unbounded (texts.headD "") Clause.openBelow), ?_⟩
    simp only [clause, instants, List.mapM_cons, List.mapM_nil]
    cases instant.term <;> rfl
  | after instant =>
    refine ⟨fun texts => Clause.onField field
      (Clause.range Clause.openAbove (texts.headD "") Clause.unbounded "]"), ?_⟩
    simp only [clause, instants, List.mapM_cons, List.mapM_nil]
    cases instant.term <;> rfl
  | during start finish =>
    refine ⟨fun texts => Clause.onField field
      (Clause.range Clause.openAbove (texts.headD "") (texts.tail.headD "") Clause.openBelow), ?_⟩
    simp only [clause, instants, List.mapM_cons, List.mapM_nil]
    cases start.term with
    | error failure => rfl
    | ok low => cases finish.term <;> rfl

/-- So does any test. -/
theorem Test.clause_eq_map (wanted : Test) (field : String) :
    ∃ finish : List String → String,
      wanted.clause field = (wanted.instants.mapM Instant.term).map finish := by
  cases wanted with
  | comparison op value => exact ⟨fun _ => op.clause field value, rfl⟩
  | spatial op => exact ⟨fun _ => op.clause field, rfl⟩
  | temporal op => exact op.clause_eq_map field
  | text wanted => exact ⟨fun _ => wanted.clause field, rfl⟩

/-- The clause of a test on a field is written iff the instants have years; else the first one that
has none offends. -/
theorem Test.clause_cases (field : String) (wanted : Test) :
    ((∀ i ∈ wanted.instants, i.HasYear) ∧ ∃ clause, wanted.clause field = .ok clause) ∨
      ∃ failure before i after, wanted.clause field = .error failure ∧
        wanted.instants = before ++ i :: after ∧ (∀ j ∈ before, j.HasYear) ∧
        i.Offends failure := by
  obtain ⟨finish, hclause⟩ := wanted.clause_eq_map field
  rcases Instant.mapM_term_cases wanted.instants with
    ⟨hyears, texts, hterms⟩ | ⟨failure, before, i, after, hterms, hsplit⟩
  · exact .inl ⟨hyears, finish texts, by rw [hclause, hterms]; rfl⟩
  · exact .inr ⟨failure, before, i, after, by rw [hclause, hterms]; rfl, hsplit⟩

/-- A test is written, or there is a reason why it is not. -/
theorem Test.isWritable_or_offends (schema : Schema) (property : String) (wanted : Test) :
    wanted.IsWritable schema property ∨ ∃ failure, wanted.Offends schema property failure := by
  cases hfield : wanted.field? schema property with
  | none => exact .inr ⟨_, .noField hfield⟩
  | some field =>
    rcases Instant.mapM_term_cases wanted.instants with
      ⟨hyears, -⟩ | ⟨failure, before, i, after, -, hsplit, hbefore, hi⟩
    · exact .inl ⟨⟨field, hfield⟩, hyears⟩
    · exact .inr ⟨failure, .instant hfield hsplit hbefore hi⟩

/-! ## Nodes -/

namespace Filter

mutual

/-- The nodes of a filter whose root stands at a level: a node comes before its children, and these
come from left to right. Each node has its level beside it. -/
def nodesAt : Nat → Filter → List (Nat × Filter)
  | level, all children => (level, all children) :: nodesOfAt (level + 1) children
  | level, any children => (level, any children) :: nodesOfAt (level + 1) children
  | level, not child => (level, not child) :: nodesAt (level + 1) child
  | level, test property wanted => [(level, test property wanted)]

/-- The nodes of several filters whose roots stand at one level. -/
def nodesOfAt : Nat → List Filter → List (Nat × Filter)
  | _, [] => []
  | level, f :: fs => nodesAt level f ++ nodesOfAt level fs

end

/-- The nodes of a filter, in the order in which they are entered; the root is at level one. -/
def nodes (f : Filter) : List (Nat × Filter) :=
  nodesAt 1 f

/-- The tests among nodes. -/
def testsIn (nodes : List (Nat × Filter)) : List (String × Test) :=
  nodes.filterMap fun n =>
    match n.2 with
    | test property wanted => some (property, wanted)
    | _ => none

theorem testsIn_append (nodes more : List (Nat × Filter)) :
    testsIn (nodes ++ more) = testsIn nodes ++ testsIn more :=
  List.filterMap_append

mutual

/-- The tests among the nodes of a filter are its tests. -/
theorem testsIn_nodesAt : ∀ (level : Nat) (f : Filter), testsIn (nodesAt level f) = f.tests
  | level, .all children => testsIn_nodesOfAt (level + 1) children
  | level, .any children => testsIn_nodesOfAt (level + 1) children
  | level, .not child => testsIn_nodesAt (level + 1) child
  | _, .test _ _ => rfl

theorem testsIn_nodesOfAt :
    ∀ (level : Nat) (fs : List Filter), testsIn (nodesOfAt level fs) = tests.testsOf fs
  | _, [] => rfl
  | level, f :: fs => by
    rw [nodesOfAt, testsIn_append, testsIn_nodesAt level f, testsIn_nodesOfAt level fs]
    rfl

end

/-- Why a node is refused when it is entered. -/
inductive Offends (schema : Schema) : Nat × Filter → Failure → Prop where
  /-- It stands too deep, whatever it is. -/
  | tooDeep {level : Nat} {f : Filter} (hlevel : maxFilterDepth < level) :
    Offends schema (level, f) (.invalidRequest .filterTooDeep)
  /-- It is a test that is not written. -/
  | test {level : Nat} {property : String} {wanted : Test} {failure : Failure}
    (hlevel : level ≤ maxFilterDepth) (h : wanted.Offends schema property failure) :
    Offends schema (level, .test property wanted) failure

/-- The node does not offend. -/
def Passes (schema : Schema) (n : Nat × Filter) : Prop :=
  ∀ failure, ¬ Offends schema n failure

/-- A node passes iff its level does, and it is no test or one that is written. -/
theorem passes_iff {schema : Schema} {n : Nat × Filter} :
    Passes schema n ↔
      n.1 ≤ maxFilterDepth ∧ ∀ e ∈ testsIn [n], e.2.IsWritable schema e.1 := by
  obtain ⟨level, f⟩ := n
  constructor
  · intro hpass
    have hlevel : level ≤ maxFilterDepth := Nat.not_lt.mp fun hdeep => hpass _ (.tooDeep hdeep)
    refine ⟨hlevel, ?_⟩
    cases f with
    | test property wanted =>
      refine List.forall_mem_singleton.mpr ?_
      refine (wanted.isWritable_or_offends schema property).resolve_right ?_
      rintro ⟨failure, h⟩
      exact hpass failure (.test hlevel h)
    | _ => exact List.forall_mem_nil _
  · rintro ⟨hlevel, hwritable⟩ failure h
    cases h with
    | tooDeep hdeep => exact Nat.not_le.mpr hdeep hlevel
    | test _ h => exact h.not_isWritable (hwritable _ (List.mem_cons_self ..))

/-- Nodes pass iff none stands too deep and every test among them is written. -/
theorem forall_passes_iff {schema : Schema} {nodes : List (Nat × Filter)} :
    (∀ n ∈ nodes, Passes schema n) ↔
      (∀ n ∈ nodes, n.1 ≤ maxFilterDepth) ∧ ∀ e ∈ testsIn nodes, e.2.IsWritable schema e.1 := by
  induction nodes with
  | nil =>
    exact iff_of_true (List.forall_mem_nil _) ⟨List.forall_mem_nil _, List.forall_mem_nil _⟩
  | cons n nodes ih =>
    have hsplit : testsIn (n :: nodes) = testsIn [n] ++ testsIn nodes := testsIn_append [n] nodes
    rw [List.forall_mem_cons, List.forall_mem_cons, hsplit, List.forall_mem_append, ih, passes_iff,
      and_and_and_comm]

/-! ## Levels -/

mutual

/-- No node of a filter stands too deep iff the filter is not too deep for its level. -/
theorem forall_level_iff : ∀ (level : Nat) (f : Filter),
    (∀ n ∈ nodesAt level f, n.1 ≤ maxFilterDepth) ↔ level + f.depth ≤ maxFilterDepth + 1
  | level, .all children => by
    rw [nodesAt, List.forall_mem_cons, forall_level_of_iff]
    exact fits_iff.symm
  | level, .any children => by
    rw [nodesAt, List.forall_mem_cons, forall_level_of_iff]
    exact fits_iff.symm
  | level, .not child => by
    rw [nodesAt, List.forall_mem_cons, forall_level_iff]
    show level ≤ maxFilterDepth ∧ _ ↔ level + (child.depth + 1) ≤ maxFilterDepth + 1
    omega
  | level, .test property wanted => by
    rw [nodesAt, List.forall_mem_singleton]
    exact Nat.succ_le_succ_iff.symm

/-- Several filters stand at a level without nodes too deep iff each of them does. -/
theorem forall_level_of_iff : ∀ (level : Nat) (fs : List Filter),
    (∀ n ∈ nodesOfAt level fs, n.1 ≤ maxFilterDepth) ↔
      ∀ f ∈ fs, level + f.depth ≤ maxFilterDepth + 1
  | level, [] => iff_of_true (List.forall_mem_nil _) (List.forall_mem_nil _)
  | level, f :: fs => by
    rw [nodesOfAt, List.forall_mem_append, List.forall_mem_cons, forall_level_iff,
      forall_level_of_iff]

end

/-- A node is refused for its level, or for what comes after its level passed. -/
theorem guardLevel_bind_error {α : Type} {level : Nat} {act : Except Failure α}
    (h : level ≤ maxFilterDepth → act = .error (.invalidRequest .filterTooDeep)) :
    (do Reading.guardLevel level
        act : Except Failure α) = .error (.invalidRequest .filterTooDeep) := by
  by_cases hlevel : level ≤ maxFilterDepth
  · rw [guardLevel_eq_ok hlevel, h hlevel]
    rfl
  · have hguard : (Reading.guardLevel level : Except Failure Unit) =
        .error (.invalidRequest .filterTooDeep) := if_pos (Nat.not_le.mp hlevel)
    rw [hguard]
    rfl

mutual

/-- There is no verdict on a filter that is too deep. -/
theorem readAt_lookup_error : ∀ (f : Filter) (level : Nat),
    ¬ level + f.depth ≤ maxFilterDepth + 1 →
      Reading.readAt lookupReading level f = .error (.invalidRequest .filterTooDeep)
  | .all children, level, h => by
    rw [Reading.readAt]
    refine guardLevel_bind_error fun hlevel => ?_
    rw [readAllAt_lookup_error children (level + 1) fun hfits => h (fits_iff.mpr ⟨hlevel, hfits⟩)]
    rfl
  | .any children, level, h => by
    rw [Reading.readAt]
    refine guardLevel_bind_error fun hlevel => ?_
    rw [readAllAt_lookup_error children (level + 1) fun hfits => h (fits_iff.mpr ⟨hlevel, hfits⟩)]
    rfl
  | .not child, level, h => by
    have hdeep : ¬ level + (child.depth + 1) ≤ maxFilterDepth + 1 := h
    rw [Reading.readAt]
    refine guardLevel_bind_error fun hlevel => ?_
    rw [readAt_lookup_error child (level + 1) (by omega)]
    rfl
  | .test property wanted, level, h => by
    rw [Reading.readAt]
    exact guardLevel_bind_error fun hlevel => absurd (Nat.succ_le_succ hlevel) h

/-- There are no verdicts on several filters if one of them is too deep. -/
theorem readAllAt_lookup_error : ∀ (fs : List Filter) (level : Nat),
    (¬ ∀ f ∈ fs, level + f.depth ≤ maxFilterDepth + 1) →
      Reading.readAllAt lookupReading level fs = .error (.invalidRequest .filterTooDeep)
  | [], level, h => absurd (List.forall_mem_nil _) h
  | f :: fs, level, h => by
    rw [Reading.readAllAt]
    by_cases hf : level + f.depth ≤ maxFilterDepth + 1
    · obtain ⟨verdict, hverdict, -⟩ := readAt_lookup f level hf
      rw [hverdict, readAllAt_lookup_error fs level
        fun hfs => h (List.forall_mem_cons.mpr ⟨hf, hfs⟩)]
      rfl
    · rw [readAt_lookup_error f level hf]
      rfl

end

end Filter

/-! ## Walks -/

namespace ClauseWriter

open CatalogSearch.Filter

/-- How nodes are entered one after the other: what comes of it, and what is noted. -/
inductive Walks {α : Type} (w : ClauseWriter) (nodes : List (Nat × Filter)) (found : Findings) :
    Except Failure α × Findings → Prop where
  /-- No node offends, and every test is noted. -/
  | through (hpass : ∀ n ∈ nodes, Passes w.schema n) (x : α) :
    Walks w nodes found (.ok x, w.noteAll (testsIn nodes) found)
  /-- The first node that offends is the last one to be entered; the tests before it are noted. -/
  | stopped {before after : List (Nat × Filter)} {n : Nat × Filter} {failure : Failure}
    (hsplit : nodes = before ++ n :: after) (hbefore : ∀ m ∈ before, Passes w.schema m)
    (hn : Filter.Offends w.schema n failure) :
    Walks w nodes found (.error failure, w.noteAll (testsIn before) found)

section Walks

variable {α β : Type} {w : ClauseWriter} {nodes more : List (Nat × Filter)} {found : Findings}

theorem pure_walks (x : α) : Walks w [] found ((pure x : ClauseM α).run found) :=
  .through (List.forall_mem_nil _) x

/-- One node that passes. -/
theorem walks_of_passes {n : Nat × Filter} (h : Passes w.schema n) (found : Findings) (x : α) :
    Walks w [n] found (.ok x, w.noteAll (testsIn [n]) found) :=
  .through (List.forall_mem_singleton.mpr h) x

/-- One node that does not. -/
theorem walks_of_offends {n : Nat × Filter} {failure : Failure}
    (h : Filter.Offends w.schema n failure) (found : Findings) :
    Walks w [n] found ((.error failure : Except Failure α), found) :=
  .stopped (List.nil_append [n]).symm (List.forall_mem_nil _) h

/-- Nodes are entered after other nodes, unless one of these offends. -/
theorem Walks.bind {act : ClauseM α} {next : α → ClauseM β}
    (h : Walks w nodes found (act.run found))
    (h' : ∀ x, Walks w more (w.noteAll (testsIn nodes) found)
      ((next x).run (w.noteAll (testsIn nodes) found))) :
    Walks w (nodes ++ more) found ((act >>= next).run found) := by
  generalize hact : act.run found = out at h
  cases h with
  | through hpass x =>
    -- the walk goes on from what the first nodes left noted
    have hnext := h' x
    rw [bind_run_of_ok hact]
    generalize (next x).run (w.noteAll (testsIn nodes) found) = out at hnext
    cases hnext with
    | through hmore y =>
      rw [← noteAll_append, ← testsIn_append]
      exact .through (List.forall_mem_append.mpr ⟨hpass, hmore⟩) y
    | @stopped before after n failure hsplit hbefore hn =>
      rw [← noteAll_append, ← testsIn_append]
      exact .stopped (by rw [hsplit, List.append_assoc])
        (List.forall_mem_append.mpr ⟨hpass, hbefore⟩) hn
  | stopped hsplit hbefore hn =>
    -- the other nodes come after the one that offends, and are not entered
    rw [bind_run_of_error hact]
    exact .stopped (by rw [hsplit, List.append_assoc]; rfl) hbefore hn

/-- Nothing is entered to put an answer together. -/
theorem Walks.bind_pure {act : ClauseM α} (h : Walks w nodes found (act.run found))
    (finish : α → β) :
    Walks w nodes found ((act >>= fun x => pure (finish x) : ClauseM β).run found) := by
  have hboth : Walks w (nodes ++ []) found _ := h.bind fun x => pure_walks (finish x)
  rwa [List.append_nil] at hboth

/-- A node that is no test offends by its level only. -/
theorem guardLevel_walks {level : Nat} {f : Filter} (hf : testsIn [(level, f)] = [])
    (found : Findings) :
    Walks w [(level, f)] found ((Reading.guardLevel level : ClauseM Unit).run found) := by
  unfold Reading.guardLevel
  by_cases hlevel : maxFilterDepth < level
  · rw [if_pos hlevel]
    exact walks_of_offends (.tooDeep hlevel) found
  · rw [if_neg hlevel]
    have hpass : Passes w.schema (level, f) := by
      intro failure h
      cases h with
      | tooDeep hdeep => exact hlevel hdeep
      | test _ _ => cases hf
    have hwalk := walks_of_passes hpass found ()
    rwa [hf] at hwalk

/-- A test is written and noted, or it offends. -/
theorem test_walks (level : Nat) (property : String) (wanted : Test) (found : Findings) :
    Walks w [(level, .test property wanted)] found
      ((do Reading.guardLevel level
           w.testClause property wanted : ClauseM String).run found) := by
  by_cases hlevel : maxFilterDepth < level
  · have hguard : (Reading.guardLevel level : ClauseM Unit) =
        throw (.invalidRequest .filterTooDeep) := if_pos hlevel
    rw [hguard]
    exact walks_of_offends (.tooDeep hlevel) found
  have hguard : (Reading.guardLevel level : ClauseM Unit) = pure () := if_neg hlevel
  rw [hguard]
  show Walks w _ found ((w.testClause property wanted).run found)
  have hle : level ≤ maxFilterDepth := Nat.not_lt.mp hlevel
  -- the field comes first, then the instants, and the test is noted after both
  unfold testClause
  cases hfield : wanted.field? w.schema property with
  | none => exact walks_of_offends (.test hle (.noField hfield)) found
  | some field =>
    dsimp only
    rcases wanted.clause_cases field with
      ⟨hyears, clause, hclause⟩ | ⟨failure, before, i, after, hclause, hsplit, hbefore, hi⟩
    · rw [hclause]
      refine walks_of_passes (fun failure h => ?_) found clause
      cases h with
      | tooDeep hdeep => exact hlevel hdeep
      | test _ h => exact h.not_isWritable ⟨⟨field, hfield⟩, hyears⟩
    · rw [hclause]
      exact walks_of_offends (.test hle (.instant hfield hsplit hbefore hi)) found

end Walks

/-! ## Filters -/

variable {w : ClauseWriter}

mutual

/-- Writing a filter is a walk through its nodes. -/
theorem readAt_walks : ∀ (f : Filter) (level : Nat) (found : Findings),
    Walks w (nodesAt level f) found ((Reading.readAt w.reading level f).run found)
  | .all children, level, found => by
    rw [Reading.readAt]
    exact (guardLevel_walks rfl found).bind fun _ =>
      (readAllAt_walks children (level + 1) _).bind_pure _
  | .any children, level, found => by
    rw [Reading.readAt]
    exact (guardLevel_walks rfl found).bind fun _ =>
      (readAllAt_walks children (level + 1) _).bind_pure _
  | .not child, level, found => by
    rw [Reading.readAt]
    exact (guardLevel_walks rfl found).bind fun _ =>
      (readAt_walks child (level + 1) _).bind_pure _
  | .test property wanted, level, found => by
    rw [Reading.readAt]
    exact test_walks level property wanted found

/-- Writing several filters is a walk through the nodes of each. -/
theorem readAllAt_walks : ∀ (fs : List Filter) (level : Nat) (found : Findings),
    Walks w (nodesOfAt level fs) found ((Reading.readAllAt w.reading level fs).run found)
  | [], level, found => by
    rw [Reading.readAllAt]
    exact pure_walks []
  | f :: fs, level, found => by
    rw [Reading.readAllAt]
    exact (readAt_walks f level found).bind fun text =>
      (readAllAt_walks fs level _).bind_pure _

end

end ClauseWriter

/-! ## How the writing of a filter ends -/

/-- What is noted of tests: the texts that they ask the identifier to equal, and the first point
that they name, if one is wanted. -/
structure Findings.AreOf (found : Findings) (byDistance : Bool) (tests : List (String × Test)) :
    Prop where
  ids : found.ids = tests.flatMap fun e => (Filter.test e.1 e.2).idLiterals
  origin : found.origin = if byDistance
    then (tests.flatMap fun e => (Filter.test e.1 e.2).origins).head? else none

theorem ClauseWriter.noteAll_areOf (w : ClauseWriter) (tests : List (String × Test)) :
    (w.noteAll tests {}).AreOf w.byDistance tests where
  ids := by
    rw [Filter.ids_noteAll, funext fun e : String × Test => Filter.toList_id? e.1 e.2]
    rfl
  origin := by
    rw [Filter.origin_noteAll, funext fun e : String × Test => Filter.toList_origin? e.1 e.2]
    rfl

/-- How the writing of a filter ends, and what is noted until then. -/
structure Filter.Ends (schema : Schema) (byDistance : Bool) (f : Filter)
    (out : Except Failure String) (found : Findings) : Prop where
  /-- There is a text iff no node stands too deep, every test has a field, and every instant has a
  year that can be written. -/
  written : (∃ text, out = .ok text) ↔
    (∀ n ∈ f.nodes, n.1 ≤ 64) ∧ ∀ e ∈ f.tests,
      (∃ field, schema.field? e.1 e.2.format e.2.isPhrase e.2.options = some field) ∧
        ∀ i ∈ e.2.instants, 0 ≤ i.utc.date.year ∧ i.utc.date.year ≤ 9999
  /-- Then all tests are noted. -/
  noted : ∀ text, out = .ok text → found.AreOf byDistance f.tests
  /-- Otherwise the failure is that of the first node that offends, and the tests before it are
  noted. -/
  refused : ∀ failure, out = .error failure →
    ∃ before n after, f.nodes = before ++ n :: after ∧ (∀ m ∈ before, Passes schema m) ∧
      Offends schema n failure ∧ found.AreOf byDistance (testsIn before)
  /-- There is a verdict on the filter iff no node stands too deep; nothing else is amiss then. -/
  judged : (∃ verdict, f.isLookup = .ok verdict) ↔ ∀ n ∈ f.nodes, n.1 ≤ 64
  unjudged : (¬ ∀ n ∈ f.nodes, n.1 ≤ 64) →
    f.isLookup = .error (.invalidRequest .filterTooDeep)

/-- **The first offence counts.** A filter is written unless one of its nodes offends; the first
one that does is why it is not, and nothing after it is looked at. -/
theorem ClauseWriter.write_ends (w : ClauseWriter) (f : Filter) :
    f.Ends w.schema w.byDistance (w.write f).1 (w.write f).2 := by
  have hlevels : (∀ n ∈ f.nodes, n.1 ≤ 64) ↔ 1 + f.depth ≤ maxFilterDepth + 1 :=
    Filter.forall_level_iff 1 f
  have htests : Filter.testsIn f.nodes = f.tests := Filter.testsIn_nodesAt 1 f
  have hwalk : w.Walks f.nodes {} (w.write f) := readAt_walks f 1 {}
  have hpasses : (∀ n ∈ f.nodes, Filter.Passes w.schema n) ↔ _ := Filter.forall_passes_iff
  rw [htests] at hpasses
  have hunjudged : (¬ ∀ n ∈ f.nodes, n.1 ≤ 64) →
      f.isLookup = .error (.invalidRequest .filterTooDeep) := fun h =>
    Filter.readAt_lookup_error f 1 fun hfits => h (hlevels.mpr hfits)
  have hjudged : (∃ verdict, f.isLookup = .ok verdict) ↔ ∀ n ∈ f.nodes, n.1 ≤ 64 := by
    constructor
    · rintro ⟨verdict, hverdict⟩
      refine Decidable.byContradiction fun h => ?_
      cases hverdict.symm.trans (hunjudged h)
    · intro h
      obtain ⟨verdict, hverdict, -⟩ := Filter.readAt_lookup f 1 (hlevels.mp h)
      exact ⟨verdict, hverdict⟩
  generalize w.write f = out at hwalk
  cases hwalk with
  | through hpass text =>
    refine ⟨iff_of_true ⟨text, rfl⟩ (hpasses.mp hpass), fun _ _ => ?_, nofun, hjudged, hunjudged⟩
    rw [htests]
    exact w.noteAll_areOf f.tests
  | @stopped before after n failure hsplit hbefore hn =>
    refine ⟨iff_of_false nofun fun h => ?_, nofun, ?_, hjudged, hunjudged⟩
    · refine hpasses.mpr h n ?_ failure hn
      rw [hsplit]
      exact List.mem_append_right _ (List.mem_cons_self ..)
    · intro other hother
      obtain rfl := Except.error.inj hother
      exact ⟨before, n, after, hsplit, hbefore, hn, w.noteAll_areOf _⟩

/-- A conjunction without children may stand at the last level, but not below it. -/
example :
    (Nat.repeat Filter.not 63 (.all [])).isLookup = .ok false ∧
      (Nat.repeat Filter.not 64 (.all [])).isLookup = .error (.invalidRequest .filterTooDeep) :=
  ⟨rfl, rfl⟩

end CatalogSearch
