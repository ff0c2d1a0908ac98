import CatalogSearch.Document

/-!
# Engine responses

What the search engine answers to a query.

- `Page`: the documents of a page and the number of all that match.
- `CountedField`, `Pivot`: counted values, flat and nested.
- `Completions`, `Collation`: completed words and corrected query texts.
- `EngineResponse`: all of it.
-/

namespace CatalogSearch

/-- A page of documents (`DocumentList`). -/
structure Page where
  docs : List Document
  /-- How many documents match in all. -/
  found : UInt64
  deriving Inhabited

instance : Coded Page where
  toJson l := object [("docs", toJson l.docs), ("num_found", toJson l.found)]
  ofJson? := record? do return { docs := ← required "docs", found := ← required "num_found" }

/-- A value of a field with the number of its documents (`FacetCount`). -/
structure CountedValue where
  name : String
  count : UInt64
  deriving DecidableEq, Inhabited

instance : Coded CountedValue where
  toJson c := object [("name", toJson c.name), ("count", toJson c.count)]
  ofJson? := record? do return { name := ← required "name", count := ← required "count" }

/-- The counted values of a field (`FacetField`). -/
structure CountedField where
  name : String
  /-- Its values, in the engine's order. -/
  values : List CountedValue
  deriving DecidableEq, Inhabited

instance : Coded CountedField where
  toJson f := object [("name", toJson f.name), ("values", toJson f.values)]
  ofJson? := record? do return { name := ← required "name", values := ← required "values" }

/-- A counted value, with the values of the next field counted within it (`PivotField`). -/
inductive Pivot where
  | mk (field : String) (value : Json) (count : UInt64) (inner : List Pivot)
  deriving Inhabited

namespace Pivot

/-- The field. -/
def field : Pivot → String
  | mk field _ _ _ => field

/-- The value. -/
def value : Pivot → Json
  | mk _ value _ _ => value

/-- The number of documents. -/
def count : Pivot → UInt64
  | mk _ _ count _ => count

/-- The values of the next field within this value. -/
def inner : Pivot → List Pivot
  | mk _ _ _ inner => inner

mutual

/-- The written form, in which the values within are a list of the same form. -/
def write : Pivot → Json
  | mk field value count inner => object
    [("field", toJson field), ("value", toJson value), ("count", toJson count),
      ("pivot", .arr (writeAll inner))]

/-- The written forms of several. -/
def writeAll : List Pivot → List Json
  | [] => []
  | p :: ps => write p :: writeAll ps

end

/-- Reads a pivot from a value of at most `fuel` levels. -/
def read? : Nat → Json → Option Pivot
  | 0, _ => none
  | fuel + 1, j =>
    let inner : Coded (List Pivot) :=
      ⟨fun _ => .null, fun
        | .arr items => readAll? (read? fuel) items
        | _ => none⟩
    record? (do
      return mk (← required "field") (← required "value") (← required "count")
        (← @defaulted _ inner "pivot" [])) j

instance : Coded Pivot := ⟨write, fun j => read? j.depth j⟩

end Pivot

/-- A completed word (`Suggestion`). -/
structure Completion where
  term : String
  /-- What the dictionary holds beside the word. -/
  payload : String
  weight : Int64
  deriving DecidableEq, Inhabited

instance : Coded Completion where
  toJson s := object
    [("term", toJson s.term), ("payload", toJson s.payload), ("weight", toJson s.weight)]
  ofJson? := record? do
    return {
      term := ← required "term"
      payload := ← required "payload"
      weight := ← required "weight" }

/-- The completed words of a dictionary (`SuggestionGroup`). -/
structure Completions where
  dictionary : String
  /-- Its words, in the engine's order. -/
  words : List Completion
  deriving DecidableEq, Inhabited

instance : Coded Completions where
  toJson g := object
    [("dictionary", toJson g.dictionary), ("suggestions", toJson g.words)]
  ofJson? := record? do
    return { dictionary := ← required "dictionary", words := ← required "suggestions" }

/-- A word and what it is corrected to. -/
structure Correction where
  misspelled : String
  correction : String
  deriving DecidableEq, Inhabited

instance : Coded Correction where
  toJson c := object [("original", toJson c.misspelled), ("correction", toJson c.correction)]
  ofJson? := record? do
    return { misspelled := ← required "original", correction := ← required "correction" }

/-- A corrected query text. -/
structure Collation where
  text : String
  hits : Int64
  corrections : List Correction
  deriving DecidableEq, Inhabited

instance : Coded Collation where
  toJson c := object
    [("query_string", toJson c.text), ("hits", toJson c.hits),
      ("corrections", toJson c.corrections)]
  ofJson? := record? do
    return {
      text := ← required "query_string"
      hits := ← required "hits"
      corrections := ← required "corrections" }

/-- What the spelling check found (`SpellcheckResponse`). -/
structure Spelling where
  /-- The corrected query texts, in the engine's order. -/
  collations : List Collation
  deriving DecidableEq, Inhabited

instance : Coded Spelling where
  toJson s := object [("collations", toJson s.collations)]
  ofJson? := record? do return { collations := ← required "collations" }

/-- What the search engine answers (`ProviderResponse`). -/
structure EngineResponse where
  header : KeyMap Json := .empty
  elapsed : UInt64 := 0
  /-- The results, if records were asked for. -/
  results : Option Page := none
  facetFields : List CountedField := []
  /-- The nested counts, each under its path of fields. -/
  facetPivots : List (String × List Pivot) := []
  /-- The completed words, if any were asked for. -/
  completions : Option (List Completions) := none
  /-- The outcome of the spelling check, if one was made. -/
  spelling : Option Spelling := none
  deriving Inhabited

instance : Coded EngineResponse where
  toJson r := object
    [("header", toJson r.header), ("query_time_ms", toJson r.elapsed),
      ("results", toJson r.results), ("facet_fields", toJson r.facetFields),
      ("facet_pivot", toJson r.facetPivots), ("suggestions", toJson r.completions),
      ("spellcheck", toJson r.spelling)]
  ofJson? := record? do
    return {
      header := ← defaulted "header" .empty
      elapsed := ← defaulted "query_time_ms" 0
      results := ← optional "results"
      facetFields := ← defaulted "facet_fields" []
      facetPivots := ← defaulted "facet_pivot" []
      completions := ← optional "suggestions"
      spelling := ← optional "spellcheck" }

namespace EngineResponse

/-- The answer with these documents and nothing else (`with_documents`). -/
def ofDocuments (docs : List Document) (found : UInt64) : EngineResponse :=
  { results := some ⟨docs, found⟩ }

/-- The documents of the page; without results there are none. -/
def docs (r : EngineResponse) : List Document :=
  (r.results.map (·.docs)).getD []

/-- How many documents the page holds (`document_count`). -/
def pageSize (r : EngineResponse) : Nat := r.docs.length

/-- How many documents match in all; without results none do (`num_found`). -/
def found (r : EngineResponse) : UInt64 :=
  (r.results.map (·.found)).getD 0

end EngineResponse

end CatalogSearch
