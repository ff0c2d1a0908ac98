import CatalogSearch.Proofs.Engine.Dialogue
import CatalogSearch.Proofs.Filter.Writing
import CatalogSearch.Proofs.Sorting.Criteria
import CatalogSearch.Service.Plan

/-!
# What planning asks and what it comes to

Planning a request asks at most one query, the probe for the number of all records.
What it comes to depends on the reply to it and on nothing else of the session.

- `Service.probes`: the queries of planning.
- `Service.planned`: the plan, or why there is none, for a reply to the probe.
- `Service.plan_runs`: planning is just that.
- `Service.planned_eq_ok`: what is in a plan that was made.
-/

namespace CatalogSearch

/-- The number of rows that an answer to the probe gives. -/
def EngineResponse.rowCount (r : EngineResponse) : Except Failure UInt32 :=
  match r.results with
  | none => .error (.unsupportedQuery .rowCount .noCount)
  | some page =>
    match Width.toUInt32? page.found.toNat with
    | some n => .ok n
    | none => .error (.unsupportedQuery .rowCount .countTooLarge)

theorem Request.checkStart_runs (r : Request) (s : Session) :
    (r.checkStart).Runs s [] (if r.startIndex < 1
      then .error (.invalidRequest (.startIndex r.startIndex)) else .ok ()) := by
  unfold checkStart
  by_cases h : r.startIndex < 1
  · rw [if_pos h, if_pos h]
    exact ServiceM.runs_throw _ s
  · rw [if_neg h, if_neg h]
    exact ServiceM.runs_pure _ s

namespace Service

open ServiceM

/-- The query that counts all records: the written filter from the first row on, with
no rows of its own. -/
def probeQuery (r : Request) (written : WrittenFilter) : EngineQuery :=
  { written.query with start := some r.start, rows := some 0 }

/-- The page is to hold all records. -/
def wantsAll (svc : Service) (r : Request) : Bool :=
  svc.config.search.pagingMode.wantsAll r.pageSize

/-- The queries of planning: the probe, if all records are wanted and there is a filter
to count. -/
def probes (svc : Service) (r : Request) : List EngineQuery :=
  match svc.writer r.filter r.sorts with
  | .ok written => if svc.wantsAll r then [probeQuery r written] else []
  | .error _ => []

/-- Without a written filter there is nothing to count. -/
theorem probes_of_error {svc : Service} {r : Request} {failure : Failure}
    (h : svc.writer r.filter r.sorts = .error failure) : svc.probes r = [] := by
  unfold probes
  rw [h]

theorem probes_of_ok {svc : Service} {r : Request} {written : WrittenFilter}
    (h : svc.writer r.filter r.sorts = .ok written) :
    svc.probes r = if svc.wantsAll r then [probeQuery r written] else [] := by
  unfold probes
  rw [h]

/-- The length of the page, for a reply to the probe. -/
def pageRows (svc : Service) (r : Request) (reply : Except String EngineResponse) :
    Except Failure UInt32 :=
  if svc.wantsAll r then (probed reply).bind EngineResponse.rowCount
  else
    match Width.toUInt32? r.pageSize.toInt with
    | some n => .ok n
    | none => .error (.invalidRequest .pageSize)

/-- A page that is no row count is refused, unless it asks for all records. -/
theorem pageRows_eq_error_iff {svc : Service} {r : Request} {reply : Except String EngineResponse}
    (hall : ¬ svc.wantsAll r = true) {failure : Failure} :
    svc.pageRows r reply = .error failure ↔
      failure = .invalidRequest .pageSize ∧
        ¬ (0 ≤ r.pageSize.toInt ∧ r.pageSize.toInt < UInt32.size) := by
  unfold pageRows
  rw [if_neg hall]
  cases hwidth : Width.toUInt32? r.pageSize.toInt with
  | none =>
    have hout := Width.toUInt32?_eq_none_iff.mp hwidth
    refine ⟨fun h => ?_, fun h => congrArg Except.error h.1.symm⟩
    cases h
    exact ⟨rfl, hout⟩
  | some rows =>
    refine iff_of_false (fun h => nomatch h) fun h => ?_
    rw [Width.toUInt32?_eq_none_iff.mpr h.2] at hwidth
    cases hwidth

/-- The plan of a written filter and a length of the page. -/
def planOf (svc : Service) (r : Request) (written : WrittenFilter) (rows : UInt32) :
    PlannedQuery :=
  let paged := { written.query with start := some r.start, rows := some rows }
  let sorted := paged.sortAll svc.schema written.origin r.sorts
  { query := { sorted with timeAllowed := allowedTime svc.config.search.timeAllowed r.timeout }
    ids := written.ids
    isLookup := written.isLookup
    sortKey := lastSortKey svc.schema r.sorts }

/-- The plan of a request, for a reply to the probe. -/
def planned (svc : Service) (r : Request) (reply : Except String EngineResponse) :
    Except Failure PlannedQuery :=
  (svc.writer r.filter r.sorts).bind fun written =>
    (svc.pageRows r reply).bind fun rows => .ok (svc.planOf r written rows)

/-! ## Planning step by step -/

theorem countRows_runs (q : EngineQuery) (s : Session) :
    (countRows q).Runs s [{ q with rows := some 0 }]
      ((probed (s.reply 0)).bind EngineResponse.rowCount) := by
  unfold countRows EngineResponse.rowCount
  -- any width will do: unfolded, that of a row count would be counted down one by one
  obtain ⟨toRows?, hwidth⟩ : ∃ toRows?, toRows? = Width.toUInt32? := ⟨_, rfl⟩
  rw [← hwidth]
  refine (probe_runs { q with rows := some 0 } s).bind_last fun r s' => ?_
  cases r.results with
  | none => exact runs_throw _ s'
  | some page =>
    simp only
    cases toRows? page.found.toNat with
    | none => exact runs_throw _ s'
    | some n => exact runs_pure n s'

theorem rows_runs (svc : Service) (r : Request) (q : EngineQuery) (s : Session) :
    (svc.rows r q).Runs s (if svc.wantsAll r then [{ q with rows := some 0 }] else [])
      (svc.pageRows r (s.reply 0)) := by
  unfold rows pageRows
  show ServiceM.Runs (if svc.wantsAll r then _ else _) s _ _
  by_cases h : svc.wantsAll r
  · rw [if_pos h, if_pos h, if_pos h]
    exact countRows_runs q s
  · rw [if_neg h, if_neg h, if_neg h]
    cases Width.toUInt32? r.pageSize.toInt with
    | none => exact runs_throw _ s
    | some n => exact runs_pure n s

/-- Planning asks the probe at most, and comes to the plan for its reply. -/
theorem plan_runs (svc : Service) {r : Request} (hstart : ¬ r.startIndex < 1) (s : Session) :
    (svc.plan r).Runs s (svc.probes r) (svc.planned r (s.reply 0)) := by
  have hcheck := r.checkStart_runs s
  rw [if_neg hstart] at hcheck
  refine hcheck.bind_silent fun s₁ hs₁ => ?_
  have hreply₁ : s₁.reply 0 = s.reply 0 := hs₁.reply 0
  have hwrite := svc.writeFilter_runs r.filter r.sorts s₁
  unfold probes planned
  cases hw : svc.writer r.filter r.sorts with
  | error failure =>
    rw [hw] at hwrite
    exact hwrite.bind_error _
  | ok written =>
    rw [hw] at hwrite
    refine hwrite.bind_silent fun s₂ hs₂ => ?_
    have hreply₂ : s₂.reply 0 = s.reply 0 := (hs₂.reply 0).trans hreply₁
    have hrows := svc.rows_runs r { written.query with start := some r.start } s₂
    rw [hreply₂] at hrows
    exact hrows.bind_last fun n s₃ => runs_pure (svc.planOf r written n) s₃

/-! ## What is in a plan -/

theorem planned_eq_ok {svc : Service} {r : Request} {reply : Except String EngineResponse}
    {p : PlannedQuery} (h : svc.planned r reply = .ok p) :
    ∃ written rows, svc.writer r.filter r.sorts = .ok written ∧
      svc.pageRows r reply = .ok rows ∧ p = svc.planOf r written rows := by
  obtain ⟨written, hwritten, h⟩ := exists_of_bind_eq_ok h
  obtain ⟨rows, hrows, h⟩ := exists_of_bind_eq_ok h
  cases h
  exact ⟨written, rows, hwritten, hrows, rfl⟩

/-- With a written filter and a length of the page there is a plan. -/
theorem planned_of_rows {svc : Service} {r : Request} {reply : Except String EngineResponse}
    {written : WrittenFilter} {rows : UInt32} (hw : svc.writer r.filter r.sorts = .ok written)
    (hrows : svc.pageRows r reply = .ok rows) :
    svc.planned r reply = .ok (svc.planOf r written rows) := by
  unfold planned
  rw [hw, hrows]
  rfl

/-- Without a length of the page there is none. -/
theorem planned_of_rows_error {svc : Service} {r : Request}
    {reply : Except String EngineResponse} {written : WrittenFilter} {failure : Failure}
    (hw : svc.writer r.filter r.sorts = .ok written)
    (hrows : svc.pageRows r reply = .error failure) :
    svc.planned r reply = .error failure := by
  unfold planned
  rw [hw, hrows]
  rfl

/-- A plan has the page of its request. -/
theorem planOf_page (svc : Service) (r : Request) (written : WrittenFilter) (rows : UInt32) :
    (svc.planOf r written rows).query.start = some r.start ∧
      (svc.planOf r written rows).query.rows = some rows := by
  have hsame := EngineQuery.sortAll_sameSearch svc.schema written.origin
    { written.query with start := some r.start, rows := some rows } r.sorts
  exact ⟨hsame.start, hsame.rows⟩

/-- Planning keeps the text of the written filter and its further filters. -/
theorem planOf_query (svc : Service) (r : Request) (written : WrittenFilter) (rows : UInt32) :
    (svc.planOf r written rows).query.text = written.query.text ∧
      (svc.planOf r written rows).query.filters = written.query.filters := by
  have hsame := EngineQuery.sortAll_sameSearch svc.schema written.origin
    { written.query with start := some r.start, rows := some rows } r.sorts
  exact ⟨hsame.text, hsame.filters⟩

end Service

/-- What the fields of a schema are good for: a filter becomes a query text and nothing
else, with the filter's own verdict on direct lookups. -/
theorem Filter.write_eq_ok {schema : Schema} {f : Filter} {sorts : List SortBy}
    {written : WrittenFilter} (h : f.write schema sorts = .ok written) :
    (∃ text, written.query = .ofText text) ∧ f.isLookup = .ok written.isLookup := by
  obtain ⟨text, found, verdict, -, hverdict, rfl⟩ := write_eq_ok_iff.mp h
  exact ⟨⟨text, rfl⟩, hverdict⟩

end CatalogSearch
