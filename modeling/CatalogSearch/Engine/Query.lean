import CatalogSearch.Json.Coded

/-!
# Engine queries

A query in the words of the search engine, built up step by step before it is sent.

- `Order`, `EngineSort`, `FacetSpec`: its parts.
- `EngineQuery`: the query; `EngineQuery.ofText` holds a query text and nothing else.
- `pushSort`, `putParam`, `pushParam`, `facetSpec`: the steps and their views.
- Names of handlers, parameters and pseudo-fields that the engine knows.
-/

namespace CatalogSearch

/-- The direction of a sort. -/
inductive Order where
  | asc
  | desc
  deriving DecidableEq, Inhabited

namespace Order

/-- The written name. -/
def name : Order → String
  | asc => "asc"
  | desc => "desc"

instance : Coded Order := ⟨fun o => .str o.name, word? [("asc", asc), ("desc", desc)]⟩

end Order

/-- A field or function to sort by, with its direction (`SortClause`). -/
structure EngineSort where
  field : String
  order : Order
  deriving DecidableEq, Inhabited

instance : Coded EngineSort where
  toJson c := object [("field", toJson c.field), ("order", toJson c.order)]
  ofJson? := record? do return { field := ← required "field", order := ← required "order" }

/-- What is counted beside the results (`FacetParams`). -/
structure FacetSpec where
  /-- The fields whose values are counted. -/
  fields : List String := []
  /-- Paths of fields joined by commas, the outermost first. -/
  pivotFields : List String := []
  sort : Option String := none
  limit : Option UInt32 := none
  /-- The least count that is reported. -/
  minCount : Option UInt32 := none
  deriving DecidableEq, Inhabited

instance : Coded FacetSpec where
  toJson p := object
    [("fields", toJson p.fields), ("pivot_fields", toJson p.pivotFields), ("sort", toJson p.sort),
      ("limit", toJson p.limit), ("min_count", toJson p.minCount)]
  ofJson? := record? do
    return {
      fields := ← required "fields"
      pivotFields := ← required "pivot_fields"
      sort := ← optional "sort"
      limit := ← optional "limit"
      minCount := ← optional "min_count" }

/-- A query in the words of the search engine (`ProviderQuery`). -/
structure EngineQuery where
  /-- The handler, if not the standard one. -/
  handler : Option String := none
  text : Option String := none
  /-- Further query texts that restrict the results. -/
  filters : List String := []
  /-- The fields to be returned; none means all. -/
  fields : List String := []
  sorts : List EngineSort := []
  start : Option UInt64 := none
  rows : Option UInt32 := none
  /-- What is counted beside the results. -/
  facet : Option FacetSpec := none
  /-- The time the engine may take. -/
  timeAllowed : Option UInt32 := none
  /-- Parameters by name, each with its values in order. -/
  params : KeyMap (List String) := .empty
  deriving Inhabited

instance : Coded EngineQuery where
  toJson q := object
    [("request_handler", toJson q.handler), ("query", toJson q.text),
      ("filter_queries", toJson q.filters), ("fields", toJson q.fields),
      ("sorts", toJson q.sorts), ("start", toJson q.start), ("rows", toJson q.rows),
      ("facet", toJson q.facet), ("time_allowed_ms", toJson q.timeAllowed),
      ("params", toJson q.params)]
  ofJson? := record? do
    return {
      handler := ← optional "request_handler"
      text := ← optional "query"
      filters := ← required "filter_queries"
      fields := ← required "fields"
      sorts := ← required "sorts"
      start := ← optional "start"
      rows := ← optional "rows"
      facet := ← optional "facet"
      timeAllowed := ← optional "time_allowed_ms"
      params := ← required "params" }

/-! ## Words of the engine -/

/-- The query text that every record matches. -/
def matchAll : String := "*:*"

/-- The query text that no record matches. -/
def matchNone : String := "-*:*"

/-- All fields of a record. -/
def allFields : String := "*"

/-- The pseudo-field with the relevance of a result. -/
def scoreField : String := "score"

/-- The pseudo-field with the distance of a result. -/
def distanceField : String := "_distance_"

/-- The function that computes the distance of a result. -/
def distanceFunction : String := "geodist()"

/-- The parameter with the field that distance is measured to. -/
def distanceFieldParam : String := "sfield"

/-- The parameter with the point that distance is measured from. -/
def distancePointParam : String := "pt"

/-- The parameter that turns the spelling check on or off. -/
def spellcheckParam : String := "spellcheck"

/-- The parameter with the identifiers of a direct lookup. -/
def idsParam : String := "ids"

/-- The handler that looks records up by identifier. -/
def lookupHandler : String := "/get"

/-- The handler that completes words. -/
def completionHandler : String := "/suggest"

namespace EngineQuery

/-- The query with this text and nothing else. -/
def ofText (text : String) : EngineQuery := { text := some text }

/-- Asks for these fields only (`set_fields`). -/
def withFields (q : EngineQuery) (fields : List String) : EngineQuery :=
  { q with fields := fields }

/-- Sorts by one more field, after all earlier ones (`add_sort`). -/
def pushSort (q : EngineQuery) (field : String) (order : Order) : EngineQuery :=
  { q with sorts := q.sorts ++ [⟨field, order⟩] }

/-- Gives a parameter a single value (`set_param`). -/
def putParam (q : EngineQuery) (name value : String) : EngineQuery :=
  { q with params := q.params.insert name [value] }

/-- Gives a parameter one more value (`add_param`). -/
def pushParam (q : EngineQuery) (name value : String) : EngineQuery :=
  { q with params := q.params.alter name fun old => old.getD [] ++ [value] }

/-- The values of a parameter. -/
def paramValues (q : EngineQuery) (name : String) : List String :=
  (q.params.get? name).getD []

/-- The first value of a parameter. -/
def param? (q : EngineQuery) (name : String) : Option String :=
  (q.paramValues name).head?

/-- What is counted, with nothing counted unless asked for. -/
def facetSpec (q : EngineQuery) : FacetSpec := q.facet.getD {}

/-- Counts these instead. -/
def withFacet (q : EngineQuery) (facet : FacetSpec) : EngineQuery :=
  { q with facet := some facet }

/-- A parameter that was set has that value only. -/
@[simp] theorem paramValues_putParam (q : EngineQuery) (name value : String) :
    (q.putParam name value).paramValues name = [value] := by
  simp [putParam, paramValues]

/-- A value added to a parameter comes after the others. -/
@[simp] theorem paramValues_pushParam (q : EngineQuery) (name value : String) :
    (q.pushParam name value).paramValues name = q.paramValues name ++ [value] := by
  simp [pushParam, paramValues, KeyMap.alter]

end EngineQuery

end CatalogSearch
