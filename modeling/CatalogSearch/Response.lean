import CatalogSearch.Metacard

/-!
# Responses

What the catalog answers.

- `FacetResult`: the counted values of an attribute.
- `Annotation`: a value that a stage of the search adds to the answer. Its written form carries no
  tag, so an empty list is read as facets.
- `Annotations`: annotations by name, read by kind.
- `Response`: the hits of a page, the number of all, and the annotations.
-/

namespace CatalogSearch

/-- The counted values of an attribute, in the engine's order (`FacetAttributeResult`). -/
structure FacetResult where
  name : String
  values : List String
  counts : List UInt64
  deriving DecidableEq, Inhabited

instance : Coded FacetResult where
  toJson f := object
    [("attribute", toJson f.name), ("values", toJson f.values), ("counts", toJson f.counts)]
  ofJson? := record? do
    return {
      name := ← required "attribute"
      values := ← required "values"
      counts := ← required "counts" }

/-- A value that a stage of the search adds to the answer (`ResponseValue`). -/
inductive Annotation where
  | facets (results : List FacetResult)
  /-- Pairs of payload and word. -/
  | completions (pairs : List (String × String))
  | terms (words : List String)
  | flag (b : Bool)
  deriving DecidableEq, Inhabited

instance : Coded Annotation where
  toJson
    | .facets results => toJson results
    | .completions pairs => toJson pairs
    | .terms words => toJson words
    | .flag b => toJson b
  ofJson? j :=
    (ofJson? j).map Annotation.facets
      <|> (ofJson? j).map Annotation.completions
      <|> (ofJson? j).map Annotation.terms
      <|> (ofJson? j).map Annotation.flag

/-- Annotations by name (`ResponseProperties`). -/
abbrev Annotations := KeyMap Annotation

namespace Annotations

/-- The name of the counted values. -/
def facetResults : String := "facet-results"

/-- The name of the completed words. -/
def completionResult : String := "suggestion-result"

/-- The name of the words that were corrected. -/
def didYouMean : String := "didYouMean"

/-- The name of the words they were corrected to. -/
def showingResultsFor : String := "showingResultsFor"

/-- The name of the flag that the engine stopped early. -/
def partialResults : String := "partial-results"

/-- The counted values. -/
def facets? (a : Annotations) : Option (List FacetResult) :=
  match a.get? facetResults with
  | some (.facets results) => some results
  | _ => none

/-- The completed words. -/
def completions? (a : Annotations) : Option (List (String × String)) :=
  match a.get? completionResult with
  | some (.completions pairs) => some pairs
  | _ => none

/-- The words under a name. -/
def terms? (a : Annotations) (name : String) : Option (List String) :=
  match a.get? name with
  | some (.terms words) => some words
  | _ => none

/-- The engine stopped early. -/
def isPartial (a : Annotations) : Bool :=
  match a.get? partialResults with
  | some (.flag b) => b
  | _ => false

end Annotations

/-- What the catalog answers (`SourceResponse`). -/
structure Response where
  hits : List Hit
  /-- How many records match in all. -/
  total : UInt64
  /-- What the stages of the search added. -/
  annotations : Annotations

instance : Coded Response where
  toJson r := object
    [("results", toJson r.hits), ("total_hits", toJson r.total),
      ("properties", toJson r.annotations)]
  ofJson? := record? do
    return {
      hits := ← required "results"
      total := ← required "total_hits"
      annotations := ← required "properties" }

end CatalogSearch
