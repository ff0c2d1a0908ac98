import CatalogSearch.Engine.Response
import CatalogSearch.Request
import CatalogSearch.Response
import CatalogSearch.Schema.Suffixed

/-!
# Counted values

A request may ask how often the values of attributes occur.

- `EngineQuery.countFacets`: the query asks for the counts of the fields of the attributes.
- `EngineQuery.withFacets`: the same for the directives of a request, and whether they ask for it.
- `Annotations.addFacets`: the counts of an answer under the names of the attributes.
-/

namespace CatalogSearch

namespace TermFacet

/-- The field to count for an attribute: the first it is stored under, or else its own name if
that could carry a suffix. -/
def field? (schema : Schema) (name : String) : Option String :=
  let field := (schema.storedFields name).head?.getD name
  if Suffix.mark ∈ field.toList then some field else none

end TermFacet

namespace EngineQuery

/-- Asks for the counted values of the attributes of a request. -/
def countFacets (schema : Schema) (q : EngineQuery) (facet : TermFacet) : EngineQuery :=
  let params := q.facetSpec
  q.withFacet { params with
    fields := params.fields ++ facet.attributes.filterMap (TermFacet.field? schema)
    sort := some facet.order.name
    limit := some facet.limit
    minCount := some facet.minCount }

/-- Asks for the counts that the directives of a request want, if they want any (`apply_facets`). -/
def withFacets (schema : Schema) (properties : Properties) (q : EngineQuery) : EngineQuery × Bool :=
  match properties.termFacet? Properties.facet with
  | some facet => (q.countFacets schema facet, true)
  | none => (q, false)

end EngineQuery

/-- The counted values of a field under the name of its attribute (`convert`). -/
def CountedField.result (schema : Schema) (f : CountedField) : FacetResult where
  name := schema.shownName f.name
  values := f.values.map (·.name)
  counts := f.values.map (·.count)

/-- Adds the counts of an answer, if it holds any (`decode_facets`). -/
def Annotations.addFacets (schema : Schema) (r : EngineResponse) (a : Annotations) : Annotations :=
  if r.facetFields.isEmpty then a
  else a.insert facetResults (.facets (r.facetFields.map (CountedField.result schema)))

end CatalogSearch
