import CatalogSearch.Proofs.Filter.Writing
import CatalogSearch.Schema.Resource

/-!
# What a writer notes over any calls

A writer can be given nodes in any order and with any clauses for their children, not only those of
one filter. Whatever is asked of it, it notes the identifiers and the first point of the nodes that
it answers with a clause, and nothing else.

- `ClauseWriter.answer`, `ClauseWriter.reading_run`: a node is answered alike whatever was noted
  before, and only what was answered with a clause is noted.
- `ClauseWriter.answerAll`: nodes one after the other; a failure does not stop those after it.
- `ClauseWriter.Notes`: what one call makes of the findings.
- `ClauseWriter.Recalls`: what is noted after several calls, told by the nodes and the answers.
- `ClauseWriter.answerAll_recalls`: every call notes that, and so does every run of calls.
-/

namespace CatalogSearch

namespace Node

variable {α : Type}

/-- The literal of a test that compares the identifier of records for equality with a text. -/
def idLiteral? : Node α → Option String
  | .test property (.comparison .equal (.text s)) =>
    if property = Metacard.idAttribute then some s else none
  | _ => none

/-- The center of a circle, or of a search for the nearest places. -/
def center? : Node α → Option Point
  | .test _ (.spatial (.pointRadius center _)) => some center
  | .test _ (.spatial (.nearest center)) => some center
  | _ => none

/-- The kinds of nodes of which nothing is ever noted. -/
inductive IsSilent : Node α → Prop where
  | all (answers : List α) : IsSilent (.all answers)
  | any (answers : List α) : IsSilent (.any answers)
  | not (answer : α) : IsSilent (.not answer)
  | temporal (property : String) (op : Temporal) : IsSilent (.test property (.temporal op))
  | text (property : String) (wanted : TextMatch) : IsSilent (.test property (.text wanted))

/-- What the tests of the writer look for is what the nodes name. -/
theorem idLiteral?_test (property : String) (wanted : Test) :
    (test property wanted : Node α).idLiteral? = wanted.id? property := by
  unfold idLiteral? Test.id?
  cases wanted with
  | comparison op value => cases op <;> cases value <;> rfl
  | spatial _ => rfl
  | temporal _ => rfl
  | text _ => rfl

theorem center?_test (property : String) (wanted : Test) :
    (test property wanted : Node α).center? = wanted.origin? := by
  cases wanted with
  | spatial op => cases op <;> rfl
  | comparison _ _ => rfl
  | temporal _ => rfl
  | text _ => rfl

theorem IsSilent.idLiteral?_eq {node : Node α} (h : node.IsSilent) : node.idLiteral? = none := by
  cases h <;> rfl

theorem IsSilent.center?_eq {node : Node α} (h : node.IsSilent) : node.center? = none := by
  cases h <;> rfl

end Node

namespace ClauseWriter

/-! ## One call -/

/-- The answer for a node: its clause, or why there is none. -/
def answer (w : ClauseWriter) : Node String → Except Failure String
  | .all clauses => .ok (Clause.conjunction clauses)
  | .any clauses => .ok (Clause.disjunction clauses)
  | .not clause => .ok (Clause.negation clause)
  | .test property wanted =>
    match wanted.field? w.schema property with
    | none => .error (.unsupportedQuery .search (.noField property))
    | some field => wanted.clause field

/-- The findings with what a node that was answered with a clause adds. -/
def noteNode (w : ClauseWriter) (node : Node String) (found : Findings) : Findings where
  ids := found.ids ++ node.idLiteral?.toList
  origin := if w.byDistance then found.origin.or node.center? else found.origin

/-- What is noted when a node is answered. -/
def noteAnswer (w : ClauseWriter) (node : Node String) (found : Findings) :
    Except Failure String → Findings
  | .ok _ => w.noteNode node found
  | .error _ => found

variable {w : ClauseWriter}

theorem noteNode_test (property : String) (wanted : Test) (found : Findings) :
    w.noteNode (.test property wanted) found = w.note property wanted found := by
  rw [noteNode, Node.idLiteral?_test, Node.center?_test]
  rfl

theorem noteNode_of_isSilent {node : Node String} (h : node.IsSilent) (found : Findings) :
    w.noteNode node found = found := by
  simp [noteNode, h.idLiteral?_eq, h.center?_eq]

/-- Every node is answered alike whatever was noted before, and noted by its answer. -/
theorem reading_run (w : ClauseWriter) (node : Node String) (found : Findings) :
    (w.reading node).run found = (w.answer node, w.noteAnswer node found (w.answer node)) := by
  cases node with
  | all clauses => exact congrArg (Prod.mk _) (noteNode_of_isSilent (.all clauses) found).symm
  | any clauses => exact congrArg (Prod.mk _) (noteNode_of_isSilent (.any clauses) found).symm
  | not clause => exact congrArg (Prod.mk _) (noteNode_of_isSilent (.not clause) found).symm
  | test property wanted =>
    show (w.testClause property wanted).run found = _
    unfold testClause
    dsimp only [answer]
    cases wanted.field? w.schema property with
    | none => rfl
    | some field =>
      dsimp only
      cases wanted.clause field with
      | error failure => rfl
      | ok clause => exact congrArg (Prod.mk _) (noteNode_test property wanted found).symm

/-- What a call makes of the findings before it. -/
structure Notes (w : ClauseWriter) (node : Node String) (outcome : Except Failure String)
    (before after : Findings) : Prop where
  /-- A failure leaves nothing behind. -/
  failed : ∀ failure, outcome = .error failure → after = before
  /-- Nor does a conjunction, a disjunction, a negation, or a test of time or of words. -/
  silent : node.IsSilent → after = before
  /-- Nothing is taken away from the identifiers; only the literal of an identifier test that is
  answered with a clause is added. -/
  ids : ∀ clause, outcome = .ok clause → after.ids = before.ids ++ node.idLiteral?.toList
  /-- The point stays as it is if none is wanted. -/
  unwanted : w.byDistance = false → after.origin = before.origin
  /-- If one is wanted, the point of a spatial test that is answered with a clause is noted unless
  there was one before. -/
  wanted : w.byDistance = true → ∀ clause, outcome = .ok clause →
    after.origin = before.origin.or node.center?

theorem reading_notes (w : ClauseWriter) (node : Node String) (found : Findings) :
    w.Notes node ((w.reading node).run found).1 found ((w.reading node).run found).2 := by
  rw [reading_run]
  refine ⟨?_, fun hsilent => ?_, ?_, fun hdistance => ?_, fun hdistance => ?_⟩
  · intro failure (h : w.answer node = .error failure)
    rw [h]
    rfl
  · cases w.answer node with
    | error failure => rfl
    | ok clause => exact noteNode_of_isSilent hsilent found
  · intro clause (h : w.answer node = .ok clause)
    rw [h]
    rfl
  · cases w.answer node with
    | error failure => rfl
    | ok clause => simp [noteAnswer, noteNode, hdistance]
  · intro clause (h : w.answer node = .ok clause)
    simp [noteAnswer, noteNode, h, hdistance]

/-! ## Several calls -/

/-- The answers for nodes given one after the other, with what is noted in the end. A failure does
not stop the calls after it. -/
def answerAll (w : ClauseWriter) : List (Node String) → Findings →
    List (Except Failure String) × Findings
  | [], found => ([], found)
  | node :: nodes, found =>
    let (outcome, between) := (w.reading node).run found
    let (outcomes, after) := answerAll w nodes between
    (outcome :: outcomes, after)

/-- The nodes that are answered with a clause, by the answers at their places. -/
def answered (nodes : List (Node String)) (outcomes : List (Except Failure String)) :
    List (Node String) :=
  (nodes.zip outcomes).filterMap fun e => e.2.toOption.map fun _ => e.1

theorem answerAll_cons (w : ClauseWriter) (node : Node String) (nodes : List (Node String))
    (found : Findings) :
    w.answerAll (node :: nodes) found =
      (((w.reading node).run found).1 :: (w.answerAll nodes ((w.reading node).run found).2).1,
        (w.answerAll nodes ((w.reading node).run found).2).2) :=
  rfl

theorem answerAll_append (w : ClauseWriter) (nodes more : List (Node String)) (found : Findings) :
    (w.answerAll (nodes ++ more) found).2 = (w.answerAll more (w.answerAll nodes found).2).2 := by
  induction nodes generalizing found with
  | nil => rfl
  | cons node nodes ih =>
    rw [List.cons_append, answerAll_cons, ih]
    rfl

/-- The answers do not depend on what was noted before. -/
theorem outcomes_answerAll (nodes : List (Node String)) (found : Findings) :
    (w.answerAll nodes found).1 = nodes.map w.answer := by
  induction nodes generalizing found with
  | nil => rfl
  | cons node nodes ih => rw [answerAll_cons, ih, reading_run, List.map_cons]

theorem answered_cons_ok (node : Node String) (nodes : List (Node String)) (clause : String)
    (outcomes : List (Except Failure String)) :
    answered (node :: nodes) (.ok clause :: outcomes) = node :: answered nodes outcomes :=
  rfl

theorem answered_cons_error (node : Node String) (nodes : List (Node String)) (failure : Failure)
    (outcomes : List (Except Failure String)) :
    answered (node :: nodes) (.error failure :: outcomes) = answered nodes outcomes :=
  rfl

/-- The literals of the answered identifier tests are noted in the order of the calls. -/
theorem ids_answerAll (nodes : List (Node String)) (found : Findings) :
    (w.answerAll nodes found).2.ids = found.ids ++
      (answered nodes (w.answerAll nodes found).1).filterMap Node.idLiteral? := by
  induction nodes generalizing found with
  | nil => simp [answerAll, answered]
  | cons node nodes ih =>
    have hnotes := reading_notes w node found
    rw [answerAll_cons]
    dsimp only
    rw [ih]
    cases houtcome : ((w.reading node).run found).1 with
    | error failure => rw [hnotes.failed failure houtcome, answered_cons_error]
    | ok clause =>
      rw [hnotes.ids clause houtcome, answered_cons_ok, List.append_assoc]
      cases hid : node.idLiteral? <;> simp [hid]

/-- The first point among the answered spatial tests is noted, unless there was one before. -/
theorem origin_answerAll (hdistance : w.byDistance = true) (nodes : List (Node String))
    (found : Findings) :
    (w.answerAll nodes found).2.origin = found.origin.or
      ((answered nodes (w.answerAll nodes found).1).filterMap Node.center?).head? := by
  induction nodes generalizing found with
  | nil => simp [answerAll, answered]
  | cons node nodes ih =>
    have hnotes := reading_notes w node found
    rw [answerAll_cons]
    dsimp only
    rw [ih]
    cases houtcome : ((w.reading node).run found).1 with
    | error failure => rw [hnotes.failed failure houtcome, answered_cons_error]
    | ok clause =>
      rw [hnotes.wanted hdistance clause houtcome, answered_cons_ok, Option.or_assoc]
      cases hcenter : node.center? <;> simp [hcenter]

theorem origin_answerAll_of_unwanted (hdistance : w.byDistance = false)
    (nodes : List (Node String)) (found : Findings) :
    (w.answerAll nodes found).2.origin = found.origin := by
  induction nodes generalizing found with
  | nil => rfl
  | cons node nodes ih =>
    rw [answerAll_cons]
    exact (ih _).trans ((reading_notes w node found).unwanted hdistance)

/-- A point that is noted is never replaced. -/
theorem origin_answerAll_of_noted {p : Point} {found : Findings} (h : found.origin = some p)
    (nodes : List (Node String)) : (w.answerAll nodes found).2.origin = some p := by
  cases hdistance : w.byDistance with
  | false => rw [origin_answerAll_of_unwanted hdistance, h]
  | true => rw [origin_answerAll hdistance, h, Option.some_or]

/-- What a new writer has noted after calls. -/
structure Recalls (w : ClauseWriter) (nodes : List (Node String))
    (outcomes : List (Except Failure String)) (found : Findings) : Prop where
  /-- Each node has the answer that it has by itself. -/
  alike : outcomes = nodes.map w.answer
  /-- The identifiers are the literals of the identifier tests that were answered with a clause, in
  the order of the calls. -/
  ids : found.ids = (answered nodes outcomes).filterMap Node.idLiteral?
  /-- There is no point if none is wanted. -/
  unwanted : w.byDistance = false → found.origin = none
  /-- If one is wanted, it is that of the first circle, or search for the nearest places, that was
  answered with a clause. -/
  wanted : w.byDistance = true →
    found.origin = ((answered nodes outcomes).filterMap Node.center?).head?
  /-- More calls add to the identifiers at the end. -/
  grows : ∀ more, found.ids <+: (w.answerAll (nodes ++ more) {}).2.ids
  /-- No more calls replace the point. -/
  stays : ∀ more p, found.origin = some p → (w.answerAll (nodes ++ more) {}).2.origin = some p

/-- **Findings of any calls.** Each call notes what its node names if it is answered with a clause,
and nothing otherwise. So after any calls a writer has noted the identifiers in their order, and
the first point if one is wanted. -/
theorem answerAll_recalls (w : ClauseWriter) :
    (∀ node found, w.Notes node ((w.reading node).run found).1 found
      ((w.reading node).run found).2) ∧
    ∀ nodes, w.Recalls nodes (w.answerAll nodes {}).1 (w.answerAll nodes {}).2 := by
  refine ⟨reading_notes w, fun nodes => ?_⟩
  refine ⟨outcomes_answerAll nodes {}, ids_answerAll nodes {}, ?_, ?_, ?_, ?_⟩
  · exact fun hdistance => origin_answerAll_of_unwanted hdistance nodes {}
  · exact fun hdistance => origin_answerAll hdistance nodes {}
  · intro more
    rw [answerAll_append, ids_answerAll more]
    exact List.prefix_append _ _
  · intro more p hp
    rw [answerAll_append]
    exact origin_answerAll_of_noted hp more

/-- A difference names no identifier, and a place without a field no point; the second point comes
too late. -/
example :
    let near (property : String) (p : Point) : Node String :=
      .test property (.spatial (.nearest p))
    (answerAll ⟨Resource.schema.schema, true⟩
      [.test "id" (.comparison .notEqual (.text "a")), near "nowhere" ⟨1, 2⟩,
        near "location" ⟨3, 4⟩, .all ["c"], .test "id" (.comparison .equal (.text "b")),
        near "location" ⟨5, 6⟩] {}).2 = ⟨["b"], some ⟨3, 4⟩⟩ :=
  rfl

end ClauseWriter

end CatalogSearch
