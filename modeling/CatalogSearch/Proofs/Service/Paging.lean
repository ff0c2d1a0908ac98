import CatalogSearch.Proofs.Service.Planning
import CatalogSearch.Schema.Resource

/-!
# Pages

The numbers of a page come from the caller or from the engine, and the query holds them in words of
other widths. None is cut off: each is the same number in its new word, or there is no query.

- `AsksAll`: the page sizes that ask for all records.
- `Request.toNat_start`: how many records the page skips.
- `Service.Uncounted`: why the engine gives no number of all records.
- `Service.pageRows_of_size`, `Service.pageRows_of_found`: the rows of a page, by its size and by
  that number.
- `Service.plan_pages`: the pages of plans, and when the engine is asked for their length.
-/

namespace CatalogSearch

/-- The page size asks for all records: any below zero does, and zero if the settings say so. -/
def AsksAll (c : SearchConfig) (pageSize : Int64) : Prop :=
  pageSize.toInt < 0 ∨ c.zeroMeansAll = true ∧ pageSize.toInt = 0

/-- A page that starts at some record skips all before it. -/
theorem Request.toNat_start {r : Request} (h : 1 ≤ r.startIndex.toInt) :
    (r.start.toNat : Int) = r.startIndex.toInt - 1 := by
  have hlt : r.startIndex.toInt < 2 ^ 63 := Int64.toInt_lt r.startIndex
  unfold start
  rw [UInt64.toNat_ofNat_of_lt' (by rw [UInt64.size]; omega)]
  omega

/-- The number of all records is the row count, or it is beyond all row counts. -/
theorem EngineResponse.rowCount_of_results {answer : EngineResponse} {page : Page}
    (hresults : answer.results = some page) :
    (∃ n, answer.rowCount = .ok n ∧ n.toNat = page.found.toNat) ∨
      UInt32.size ≤ page.found.toNat ∧
        answer.rowCount = .error (.unsupportedQuery .rowCount .countTooLarge) := by
  unfold rowCount
  -- any width will do here, as in counting the rows
  obtain ⟨toRows?, hwidth⟩ : ∃ toRows?, toRows? = Width.toUInt32? := ⟨_, rfl⟩
  rw [← hwidth, hresults]
  dsimp only
  split
  · next n hn =>
    rw [hwidth] at hn
    exact .inl ⟨n, rfl, Int.ofNat_inj.mp (Width.toNat_of_toUInt32? hn)⟩
  · next hnone =>
    rw [hwidth] at hnone
    exact .inr ⟨Width.le_of_toUInt32?_eq_none hnone, rfl⟩

namespace Service

theorem wantsAll_iff {svc : Service} {r : Request} :
    svc.wantsAll r = true ↔ AsksAll svc.config.search r.pageSize := by
  unfold wantsAll SearchConfig.pagingMode AsksAll
  cases svc.config.search.zeroMeansAll with
  | false =>
    show decide (r.pageSize < 0) = true ↔ _
    rw [decide_eq_true_iff, Int64.lt_iff_toInt_lt, Int64.toInt_zero]
    exact ⟨.inl, fun h => h.resolve_right fun hzero => Bool.false_ne_true hzero.1⟩
  | true =>
    show decide (r.pageSize < 1) = true ↔ _
    rw [decide_eq_true_iff, Int64.lt_iff_toInt_lt, Int64.toInt_one, and_iff_right rfl]
    omega

/-- A page of some records has as many rows as its size says. -/
theorem pageRows_of_size (svc : Service) {r : Request}
    (hsome : ¬ AsksAll svc.config.search r.pageSize) (hsize : r.pageSize.toInt < UInt32.size)
    (reply : Except String EngineResponse) :
    ∃ n, svc.pageRows r reply = .ok n ∧ (n.toNat : Int) = r.pageSize.toInt := by
  have hnonneg : 0 ≤ r.pageSize.toInt := Int.not_lt.mp fun hneg => hsome (.inl hneg)
  obtain ⟨n, hn, hsame⟩ := Width.exists_toUInt32? ⟨hnonneg, hsize⟩
  unfold pageRows
  rw [if_neg fun hall => hsome (wantsAll_iff.mp hall), hn]
  exact ⟨n, rfl, hsame⟩

/-- A size beyond all row counts is refused. -/
theorem pageRows_of_oversize {svc : Service} {r : Request}
    (hsome : ¬ AsksAll svc.config.search r.pageSize) (hsize : UInt32.size ≤ r.pageSize.toInt)
    (reply : Except String EngineResponse) :
    svc.pageRows r reply = .error (.invalidRequest .pageSize) :=
  (pageRows_eq_error_iff fun hall => hsome (wantsAll_iff.mp hall)).mpr
    ⟨rfl, fun h => Int.not_lt.mpr hsize h.2⟩

/-- Why a reply to the probe gives no count. -/
inductive Uncounted : Except String EngineResponse → QueryFault → Prop where
  /-- The engine gave a reason instead of an answer. -/
  | failed (reason : String) : Uncounted (.error reason) (.engine reason)
  /-- The answer is without results. -/
  | missing {answer : EngineResponse} (hresults : answer.results = none) :
    Uncounted (.ok answer) .noCount
  /-- There are more than a row count holds. -/
  | tooMany {answer : EngineResponse} {page : Page} (hresults : answer.results = some page)
    (hfound : UInt32.size ≤ page.found.toNat) : Uncounted (.ok answer) .countTooLarge

/-- A page of all records has as many rows as there are records. -/
theorem pageRows_of_found (svc : Service) {r : Request} {answer : EngineResponse} {page : Page}
    (hall : AsksAll svc.config.search r.pageSize) (hresults : answer.results = some page)
    (hfound : page.found.toNat < UInt32.size) :
    ∃ n, svc.pageRows r (.ok answer) = .ok n ∧ n.toNat = page.found.toNat := by
  unfold pageRows
  rw [if_pos (wantsAll_iff.mpr hall)]
  exact (EngineResponse.rowCount_of_results hresults).resolve_right
    fun h => Nat.not_le.mpr hfound h.1

/-- Without their number there are no rows. -/
theorem pageRows_of_uncounted {svc : Service} {r : Request} {reply : Except String EngineResponse}
    {fault : QueryFault} (hall : AsksAll svc.config.search r.pageSize) (h : Uncounted reply fault) :
    svc.pageRows r reply = .error (.unsupportedQuery .rowCount fault) := by
  unfold pageRows
  rw [if_pos (wantsAll_iff.mpr hall)]
  cases h with
  | failed reason => rfl
  | @missing answer hresults =>
    show answer.rowCount = _
    unfold EngineResponse.rowCount
    rw [hresults]
  | @tooMany answer page hresults hfound =>
    rcases EngineResponse.rowCount_of_results hresults with ⟨n, -, hsame⟩ | ⟨-, hcount⟩
    · rw [← hsame] at hfound
      exact absurd n.toNat_lt_size (Nat.not_lt.mpr hfound)
    · exact hcount

/-- A query that counts, and asks for nothing else. -/
structure IsProbe (q : EngineQuery) : Prop where
  rows : q.rows = some 0
  sorts : q.sorts = []
  fields : q.fields = []
  facet : q.facet = none
  params : q.params = .empty
  timeAllowed : q.timeAllowed = none

/-- How the page of a plan comes about. -/
structure Paging (c : SearchConfig) (r : Request) (s : Session) (asked : List EngineQuery)
    (out : Except Failure PlannedQuery) : Prop where
  /-- The page skips the records before its first one. -/
  start : ∀ p, out = .ok p →
    ∃ skipped, p.query.start = some skipped ∧ (skipped.toNat : Int) = r.startIndex.toInt - 1
  /-- The size of a page of some records is the number of its rows. -/
  sized : ¬ AsksAll c r.pageSize → r.pageSize.toInt < UInt32.size →
    asked = [] ∧ ∃ p rows, out = .ok p ∧ p.query.rows = some rows ∧
      (rows.toNat : Int) = r.pageSize.toInt
  /-- A size that is no row count is refused. -/
  oversized : ¬ AsksAll c r.pageSize → UInt32.size ≤ r.pageSize.toInt →
    asked = [] ∧ out = .error (.invalidRequest .pageSize)
  /-- All records are counted by one probe, which searches as the plan does. -/
  probed : AsksAll c r.pageSize → ∃ probe, asked = [probe] ∧ IsProbe probe ∧
    ∀ p, out = .ok p → probe.text = p.query.text ∧ probe.filters = p.query.filters ∧
      probe.start = p.query.start
  /-- Their number is the number of rows. -/
  counted : AsksAll c r.pageSize → ∀ answer page, s.reply 0 = .ok answer →
    answer.results = some page → page.found.toNat < UInt32.size →
      ∃ p rows, out = .ok p ∧ p.query.rows = some rows ∧ rows.toNat = page.found.toNat
  /-- Without their number there is no plan, and the words say that it is missing. -/
  uncounted : AsksAll c r.pageSize → ∀ fault, Uncounted (s.reply 0) fault →
    ∃ failure, out = .error failure ∧ failure = .unsupportedQuery .rowCount fault ∧
      failure.message = "Could not retrieve number of records."

/-- **Pages are exact.** A request with an accepted filter, from some record on, is planned with
the very numbers that it or the engine gave. Only a page of all records is counted, and only a
number beyond all row counts, or none at all, keeps it from being planned. -/
theorem plan_pages (config : Config) (schema : Schema) (r : Request) (s : Session)
    {written : WrittenFilter} (hstart : 1 ≤ r.startIndex.toInt)
    (hw : r.filter.write schema r.sorts = .ok written) :
    ∃ asked out after, (plan { config, schema } r).run s = (out, after) ∧ s.Asks asked after ∧
      Paging config.search r s asked out := by
  have hbefore : ¬ r.startIndex < 1 := by
    rw [Int64.lt_iff_toInt_lt, Int64.toInt_one]
    omega
  obtain ⟨text, htext⟩ := (Filter.write_eq_ok hw).1
  have hrun := plan_runs { config, schema } hbefore s
  refine ⟨_, planned { config, schema } r (s.reply 0), _, Prod.ext hrun.outcome rfl,
    hrun.asks, ?_⟩
  rw [probes_of_ok hw]
  constructor
  case start =>
    intro p hp
    obtain ⟨written', rows, -, -, rfl⟩ := planned_eq_ok hp
    exact ⟨r.start, (planOf_page _ r written' rows).1, Request.toNat_start hstart⟩
  case sized =>
    intro hsome hsize
    obtain ⟨rows, hrows, hsame⟩ := pageRows_of_size { config, schema } hsome hsize (s.reply 0)
    exact ⟨if_neg fun hall => hsome (wantsAll_iff.mp hall), _, rows, planned_of_rows hw hrows,
      (planOf_page _ r written rows).2, hsame⟩
  case oversized =>
    intro hsome hsize
    exact ⟨if_neg fun hall => hsome (wantsAll_iff.mp hall),
      planned_of_rows_error hw (pageRows_of_oversize hsome hsize _)⟩
  case probed =>
    intro hall
    refine ⟨probeQuery r written, if_pos (wantsAll_iff.mpr hall), ?_, fun p hp => ?_⟩
    · unfold probeQuery
      rw [htext]
      exact ⟨rfl, rfl, rfl, rfl, rfl, rfl⟩
    · obtain ⟨written', rows, hw', -, rfl⟩ := planned_eq_ok hp
      cases hw.symm.trans hw'
      obtain ⟨hptext, hpfilters⟩ := planOf_query { config, schema } r written rows
      exact ⟨hptext.symm, hpfilters.symm, (planOf_page _ r written rows).1.symm⟩
  case counted =>
    intro hall answer page hreply hresults hfound
    obtain ⟨rows, hrows, hsame⟩ := pageRows_of_found { config, schema } hall hresults hfound
    rw [hreply]
    exact ⟨_, rows, planned_of_rows hw hrows, (planOf_page _ r written rows).2, hsame⟩
  case uncounted =>
    intro hall fault hfault
    exact ⟨_, planned_of_rows_error hw (pageRows_of_uncounted hall hfault), rfl, rfl⟩

/-- A request for all records from the third one on. -/
def openEndedRequest : Request where
  filter := .test "title" (.comparison .equal (.text "plain"))
  startIndex := 3
  pageSize := -1
  sortBy := some ⟨"title", .ascending⟩

/-- An engine that counts more records than half of all row counts. -/
def crowdedSession : Session where
  script := [.respond (.ofDocuments [] 3000000000)]

theorem plan_pages_openEnded :
    ∃ asked out after, (plan { config := {}, schema := Resource.schema.schema }
        openEndedRequest).run crowdedSession = (out, after) ∧
      crowdedSession.Asks asked after ∧ Paging {} openEndedRequest crowdedSession asked out ∧
      asked.length = 1 ∧ ∃ p start rows, out = .ok p ∧ p.query.start = some start ∧
        p.query.rows = some rows ∧ start.toNat = 2 ∧ rows.toNat = 3000000000 := by
  obtain ⟨written, hw⟩ : ∃ written, openEndedRequest.filter.write Resource.schema.schema
      openEndedRequest.sorts = .ok written := ⟨_, rfl⟩
  have hstart : 1 ≤ openEndedRequest.startIndex.toInt := by decide
  obtain ⟨asked, out, after, hrun, hasks, hpaging⟩ :=
    plan_pages {} Resource.schema.schema openEndedRequest crowdedSession hstart hw
  have hall : AsksAll {} openEndedRequest.pageSize := .inl (by decide)
  obtain ⟨probe, hasked, -⟩ := hpaging.probed hall
  obtain ⟨p, rows, hp, hrows, hsame⟩ := hpaging.counted hall _ _ rfl rfl (by decide)
  obtain ⟨start, hskips, hskipped⟩ := hpaging.start p hp
  exact ⟨asked, out, after, hrun, hasks, hpaging, congrArg List.length hasked, p, start, rows, hp,
    hskips, hrows, Int.ofNat_inj.mp (hskipped.trans (by decide)), hsame⟩

end Service

end CatalogSearch
