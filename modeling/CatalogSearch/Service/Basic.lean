import CatalogSearch.Config.Basic
import CatalogSearch.Engine.Session
import CatalogSearch.Filter.Written
import CatalogSearch.Hits

/-!
# The service

- `Service`: the settings, the schema and the filter writer that requests are served with.
- `ServiceM`: serving a request, which may fail after some calls to the engine.
- `ServiceM.search`, `ServiceM.lookup`, `ServiceM.write`: the engine's failures as failures of the
  service.
- `Service.writeFilter`: a filter in the words of the engine.
-/

namespace CatalogSearch

/-- What requests are served with (`QuarryService`). -/
structure Service where
  config : Config := {}
  schema : Schema
  /-- The filter writer; that of the schema unless another is given. -/
  writer : FilterWriter := Filter.write schema

/-- Serving a request; the calls made before a failure stay made. -/
abbrev ServiceM := ExceptT Failure (StateM Session)

namespace ServiceM

/-- A value, or a failure of the service. -/
def ofExcept {α : Type} : Except Failure α → ServiceM α
  | .ok x => pure x
  | .error failure => throw failure

/-- A value, or a failure to turn documents into records. -/
def ofFault {α : Type} : Except MetacardFault α → ServiceM α
  | .ok x => pure x
  | .error fault => throw (.metacardCreation fault)

/-- What the engine does, with its failure as one of the service. -/
def ofEngine {α : Type} (failure : String → Failure) (act : StateM Session (Except String α)) :
    ServiceM α := fun s =>
  match act s with
  | (.ok x, s) => (.ok x, s)
  | (.error reason, s) => (.error (failure reason), s)

/-- Answers a query. -/
def search (q : EngineQuery) : ServiceM EngineResponse :=
  ofEngine (fun reason => .unsupportedQuery .search (.engine reason)) (Session.ask q)

/-- Answers a query about the number of records. -/
def probe (q : EngineQuery) : ServiceM EngineResponse :=
  ofEngine (fun reason => .unsupportedQuery .rowCount (.engine reason)) (Session.ask q)

/-- Looks documents up by identifier. -/
def lookup (ids : List String) : ServiceM (List Document) :=
  ofEngine (fun reason => .unsupportedQuery .search (.engine reason)) (Session.lookup ids)

/-- Changes the stored documents. -/
def write (c : Call) : ServiceM Unit :=
  ofEngine .backend (Session.write c)

end ServiceM

/-- Puts a filter into the words of the engine, and counts that it was done. -/
def Service.writeFilter (svc : Service) (f : Filter) (sorts : List SortBy) :
    ServiceM WrittenFilter := do
  modify fun s => { s with filtersWritten := s.filtersWritten + 1 }
  .ofExcept (svc.writer f sorts)

end CatalogSearch
