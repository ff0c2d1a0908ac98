import CatalogSearch.Engine.Query
import CatalogSearch.Engine.Response
import CatalogSearch.Json.Printer
import CatalogSearch.Metacard
import CatalogSearch.Schema.Basic

/-!
# Content types of the catalog

The kinds of content are found by counting the versions within each name.

- `ContentType.precedes`: by name, then by version; no version comes first.
- `ContentType.insert`: a type at its place in an ordered list without repetitions.
- `contentTypeQuery?`: the query for the counts, if the schema has both fields.
- `EngineResponse.contentTypes`: the types in the answer.
-/

namespace CatalogSearch

namespace ContentType

/-- The order of versions: none before any, the others as texts. -/
def versionPrecedes : Option String → Option String → Bool
  | none, some _ => true
  | some v, some w => v < w
  | _, none => false

/-- The order of content types: by name, then by version. -/
def precedes (a b : ContentType) : Bool :=
  a.name < b.name || (a.name == b.name && versionPrecedes a.version b.version)

/-- Puts a type at its place in an ordered list, unless it is there already. -/
def insert (c : ContentType) : List ContentType → List ContentType
  | [] => [c]
  | d :: rest =>
    if c.precedes d then c :: d :: rest
    else if c = d then d :: rest
    else d :: insert c rest

/-- The types in order, each once. -/
def orderedSet (types : List ContentType) : List ContentType :=
  types.foldl (fun set c => insert c set) []

end ContentType

/-- The query that counts the versions within each name of a content type. -/
def contentTypeQuery? (schema : Schema) : Option EngineQuery :=
  let field := fun name => schema.field? name .string true .empty
  match field Metacard.contentTypeAttribute, field Metacard.contentVersionAttribute with
  | some name, some version =>
    some ((EngineQuery.ofText (name ++ ":[* TO *]")).withFacet {
      fields := [name]
      pivotFields := [name ++ "," ++ version] })
  | _, _ => none

/-- The types of a counted name: one for each version, or one without a version
(`collect_pivot`). -/
def Pivot.contentTypes (p : Pivot) : List ContentType :=
  match p.inner with
  | [] => [⟨p.value.display, none⟩]
  | versions => versions.map fun v => ⟨p.value.display, some v.value.display⟩

namespace EngineResponse

/-- The types in the flat counts: the values of the first counted field, without versions. -/
def unversionedTypes (r : EngineResponse) : List ContentType :=
  match r.facetFields with
  | [] => []
  | names :: _ => names.values.map fun c => ⟨c.name, none⟩

/-- The types in one nested count; where nothing was nested, the flat counts tell the names. -/
def typesWithin (r : EngineResponse) : List Pivot → List ContentType
  | [] => r.unversionedTypes
  | pivots => pivots.flatMap Pivot.contentTypes

/-- The types in an answer, in order, each once. -/
def contentTypes (r : EngineResponse) : List ContentType :=
  ContentType.orderedSet (r.facetPivots.flatMap fun entry => r.typesWithin entry.2)

end EngineResponse

end CatalogSearch
