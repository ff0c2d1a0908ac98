import CatalogSearch.Service.Basic
import CatalogSearch.Sorting

/-!
# Planning requests

A request becomes a query of the engine: its filter, its page, its sorts and its time.

- `Request.start`: how many records the page skips.
- `allowedTime`: the shorter of the times that the settings and the caller allow.
- `Service.rows`: the length of the page; if all records are wanted, the engine counts them first.
- `Service.plan`: all together.
-/

namespace CatalogSearch

/-- How many records come before the page. -/
def Request.start (r : Request) : UInt64 :=
  .ofNat (r.startIndex.toInt - 1).toNat

/-- Fails if the page starts before the first record (`validate_paging`). -/
def Request.checkStart (r : Request) : ServiceM Unit :=
  if r.startIndex < 1 then throw (.invalidRequest (.startIndex r.startIndex)) else pure ()

/-- A time that is no bound when zero. -/
def positive? (time : UInt32) : Option UInt32 :=
  if time = 0 then none else some time

/-- A time that the caller waits, cut down to what the engine understands. -/
def cappedTime (time : UInt64) : UInt32 :=
  if time ≤ Config.maxTime.toUInt64 then time.toUInt32 else Config.maxTime

/-- The shorter of the time of the settings and that of the caller; zero is no bound
(`time_budget`). -/
def allowedTime (configured : UInt32) (requested : Option UInt64) : Option UInt32 :=
  match positive? configured, requested.bind fun t => positive? (cappedTime t) with
  | some a, some b => some (min a b)
  | some a, none => some a
  | none, b => b

/-- A request in the words of the engine (`CompiledQuery`). -/
structure PlannedQuery where
  query : EngineQuery
  /-- The identifiers that the filter names. -/
  ids : List String
  /-- The records can be looked up by these identifiers alone. -/
  isLookup : Bool
  /-- The key of the last requested sort. -/
  sortKey : String

namespace Service

/-- The number of all records of a query, which the engine counts without returning any
(`count_rows`). -/
def countRows (q : EngineQuery) : ServiceM UInt32 := do
  let r ← ServiceM.probe { q with rows := some 0 }
  match r.results with
  | none => throw (.unsupportedQuery .rowCount .noCount)
  | some results =>
    match Width.toUInt32? results.found.toNat with
    | some n => pure n
    | none => throw (.unsupportedQuery .rowCount .countTooLarge)

/-- The length of the page of a request. -/
def rows (svc : Service) (r : Request) (q : EngineQuery) : ServiceM UInt32 :=
  if svc.config.search.pagingMode.wantsAll r.pageSize then countRows q
  else
    match Width.toUInt32? r.pageSize.toInt with
    | some n => pure n
    | none => throw (.invalidRequest .pageSize)

/-- Puts a request into the words of the engine (`compile`). -/
def plan (svc : Service) (r : Request) : ServiceM PlannedQuery := do
  r.checkStart
  let written ← svc.writeFilter r.filter r.sorts
  let started := { written.query with start := some r.start }
  let rows ← svc.rows r started
  let sorted := { started with rows := some rows }.sortAll svc.schema written.origin r.sorts
  return {
    query := { sorted with timeAllowed := allowedTime svc.config.search.timeAllowed r.timeout }
    ids := written.ids
    isLookup := written.isLookup
    sortKey := lastSortKey svc.schema r.sorts }

end Service

end CatalogSearch
