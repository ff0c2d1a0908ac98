import CatalogSearch.Completions
import CatalogSearch.Facets
import CatalogSearch.Service.Plan
import CatalogSearch.Spelling

/-!
# Searching

- `EngineQuery.asLookup`: a planned query as a direct lookup of identifiers.
- `Service.searchSpelled`: a query that may be asked again with corrected spelling.
- `Service.assemble`: the response from the one answer that counts.
- `Service.search`: completions, a direct lookup or a search, whatever the request calls for.
- `Service.searchText`: the records of a raw query text.
-/

namespace CatalogSearch

/-- The direct lookup of identifiers; the query text becomes one more filter (`real_time_query`). -/
def EngineQuery.asLookup (q : EngineQuery) (ids : List String) : EngineQuery :=
  { q with
    handler := some lookupHandler
    text := none
    filters := q.filters ++ q.text.toList
    params := q.params.insert idsParam ids }

namespace Service

/-- Answers a query (`execute_with_spellcheck`). With the spelling checked, the best corrected text
that is offered is asked for too, and its answer counts if its page is longer; only then are its
corrections added. -/
def searchSpelled (q : EngineQuery) (check : Bool) (notes : Annotations) :
    ServiceM (EngineResponse × Annotations) := do
  if check then
    let asked := q.putParam spellcheckParam "true"
    let first ← ServiceM.search asked
    match first.mostHits? with
    | none => return (first, notes)
    | some best =>
      let second ← ServiceM.search
        ({ asked with text := some best.text }.putParam spellcheckParam "false")
      if first.pageSize < second.pageSize then return (second, notes.addCorrections best)
      else return (first, notes)
  else
    return (← ServiceM.search q, notes)

/-- The response from an answer; without results it has no hits. -/
def assemble (svc : Service) (r : EngineResponse) (notes : Annotations) : ServiceM Response :=
  match r.results with
  | none => return ⟨[], 0, notes⟩
  | some page => do return ⟨← .ofFault (svc.schema.hits page.docs), page.found, notes⟩

/-- The response from an answer, with its completions and the flag that the engine stopped
early. -/
def respond (svc : Service) (r : EngineResponse) (notes : Annotations) : ServiceM Response :=
  svc.assemble r ((notes.addCompletions r).addPartial r)

/-- Answers a planned query that is no direct lookup, with its counts and its spelling. -/
def searchCounted (svc : Service) (q : EngineQuery) (p : Properties) :
    ServiceM (EngineResponse × Annotations) := do
  let (query, counted) := q.withFacets svc.schema p
  let check := (p.flag? Properties.spellcheck).getD false
  let (r, notes) ← searchSpelled query check .empty
  return (r, if counted then notes.addFacets svc.schema r else notes)

/-- Serves a request (`query`). Completions take the place of the search; a direct lookup is made if
the filter allows it or the caller forces it. -/
def search (svc : Service) (r : Request) : ServiceM Response := do
  r.checkStart
  match CompletionRequest.ofProperties? r.properties with
  | some completion => svc.respond (← ServiceM.search completion.engineQuery) .empty
  | none =>
    let planned ← svc.plan r
    if (r.properties.flag? Properties.directLookup).getD false || planned.isLookup then
      svc.respond (← ServiceM.search (planned.query.asLookup planned.ids)) .empty
    else
      let (answer, notes) ← svc.searchCounted planned.query r.properties
      svc.respond answer notes

/-- The records that a raw query text finds (`query_raw`). -/
def searchText (svc : Service) (text : String) : ServiceM (List Metacard) := do
  let r ← ServiceM.search (.ofText text)
  .ofFault (svc.schema.metacards r.docs)

end Service

end CatalogSearch
