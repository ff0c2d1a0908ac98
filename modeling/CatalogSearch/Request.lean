import CatalogSearch.Filter.Basic
import CatalogSearch.Json.Coded

/-!
# Requests

What a caller asks the catalog for.

- `SortBy`: a property to sort by, or one of three pseudo-properties.
- `Properties`: named directives of several kinds, read by kind.
- `Request`: a filter with paging, sorting, a deadline and directives.
- `Request.sorts`: the primary sort before the additional ones.
-/

namespace CatalogSearch

/-- The direction of a requested sort. -/
inductive SortOrder where
  | ascending
  | descending
  deriving DecidableEq, Inhabited

namespace SortOrder

/-- The written name. -/
def name : SortOrder → String
  | ascending => "ASCENDING"
  | descending => "DESCENDING"

instance : Coded SortOrder :=
  ⟨fun o => .str o.name, word? [("ASCENDING", ascending), ("DESCENDING", descending)]⟩

end SortOrder

/-- A property to sort by, with its direction. -/
structure SortBy where
  property : String
  order : SortOrder
  deriving DecidableEq, Inhabited

instance : Coded SortBy where
  toJson s := object [("property", toJson s.property), ("order", toJson s.order)]
  ofJson? := record? do return { property := ← required "property", order := ← required "order" }

namespace SortBy

/-- The pseudo-property that sorts by relevance. -/
def relevance : String := "RELEVANCE"

/-- The pseudo-property that sorts by distance. -/
def distance : String := "DISTANCE"

/-- The pseudo-property that sorts by the date a record took effect. -/
def temporal : String := "TEMPORAL"

end SortBy

/-- The order in which counted values are reported (`FacetSortKey`). -/
inductive FacetOrder where
  | count
  | index
  deriving DecidableEq, Inhabited

namespace FacetOrder

/-- The written name. -/
def name : FacetOrder → String
  | count => "count"
  | index => "index"

instance : Coded FacetOrder :=
  ⟨fun o => .str o.name, word? [("count", count), ("index", index)]⟩

end FacetOrder

/-- A request for the counted values of attributes (`TermFacetProperties`). -/
structure TermFacet where
  attributes : List String
  order : FacetOrder
  /-- How many values are reported for each. -/
  limit : UInt32
  /-- The least count that is reported. -/
  minCount : UInt32
  deriving DecidableEq, Inhabited

instance : Coded TermFacet where
  toJson f := object
    [("facet_attributes", toJson f.attributes), ("sort_key", toJson f.order),
      ("facet_limit", toJson f.limit), ("min_facet_count", toJson f.minCount)]
  ofJson? := record? do
    return {
      attributes := ← required "facet_attributes"
      order := ← required "sort_key"
      limit := ← required "facet_limit"
      minCount := ← required "min_facet_count" }

/-- A directive of a request (`PropertyValue`). -/
inductive Property where
  | text (s : String)
  | flag (b : Bool)
  | long (i : Int64)
  | sorts (list : List SortBy)
  | termFacet (facet : TermFacet)
  deriving DecidableEq, Inhabited

instance : Coded Property where
  toJson
    | .text s => object [("String", toJson s)]
    | .flag b => object [("Bool", toJson b)]
    | .long i => object [("Long", toJson i)]
    | .sorts list => object [("SortBys", toJson list)]
    | .termFacet facet => object [("TermFacet", toJson facet)]
  ofJson?
    | .obj [("String", j)] => (ofJson? j).map .text
    | .obj [("Bool", j)] => (ofJson? j).map .flag
    | .obj [("Long", j)] => (ofJson? j).map .long
    | .obj [("SortBys", j)] => (ofJson? j).map .sorts
    | .obj [("TermFacet", j)] => (ofJson? j).map .termFacet
    | _ => none

/-- Directives by name. -/
abbrev Properties := KeyMap Property

namespace Properties

/-- The text under a name; a value of another kind counts as none. -/
def text? (p : Properties) (name : String) : Option String :=
  match p.get? name with
  | some (.text s) => some s
  | _ => none

/-- The flag under a name. -/
def flag? (p : Properties) (name : String) : Option Bool :=
  match p.get? name with
  | some (.flag b) => some b
  | _ => none

/-- The sorts under a name. -/
def sorts? (p : Properties) (name : String) : Option (List SortBy) :=
  match p.get? name with
  | some (.sorts list) => some list
  | _ => none

/-- The facet request under a name. -/
def termFacet? (p : Properties) (name : String) : Option TermFacet :=
  match p.get? name with
  | some (.termFacet facet) => some facet
  | _ => none

/-- The name of further sorts after the primary one. -/
def additionalSorts : String := "additional.sort.bys"

/-- The name of the facet request. -/
def facet : String := "facet-properties"

/-- The name of the text whose words are to be completed. -/
def completeText : String := "suggestion-query"

/-- The name of the context of a completion. -/
def completeContext : String := "suggestion-context"

/-- The name of the dictionary of a completion. -/
def completeDictionary : String := "suggestion-dictionary"

/-- The name of the flag that has the dictionary built first. -/
def completeBuild : String := "suggestion-build"

/-- The name of the flag that has the spelling checked. -/
def spellcheck : String := "spellcheck"

/-- The name of the flag that forces a direct lookup. -/
def directLookup : String := "doRealtimeGet"

end Properties

/-- What a caller asks for (`QueryRequest`). -/
structure Request where
  filter : Filter
  /-- The index of the first record to return, from one. -/
  startIndex : Int64 := 1
  pageSize : Int64 := 10
  sortBy : Option SortBy := none
  /-- How many milliseconds the caller waits. -/
  timeout : Option UInt64 := none
  properties : Properties := .empty
  deriving Inhabited

/-- The primary sort, then the additional ones in order (`sort_bys`). -/
def Request.sorts (r : Request) : List SortBy :=
  r.sortBy.toList ++ (r.properties.sorts? Properties.additionalSorts).getD []

end CatalogSearch
