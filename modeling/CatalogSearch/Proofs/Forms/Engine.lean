import CatalogSearch.Engine.Query
import CatalogSearch.Proofs.Forms.Pivots

/-!
# Forms of what the engine is asked and answers

Each structure has its fields in the order of a list, with the kind of each.

- The forms of queries, and of the sorts and counts in them.
- The forms of documents and of pages of them.
- The forms of responses, most of whose fields may be left out, and of what is counted, completed
  and corrected in them.
-/

namespace CatalogSearch

/-! ## Queries -/

instance : RefusesNull Order := ⟨rfl⟩

instance : HasForms Order :=
  .ofWords Order.name _ (fun _ => rfl) (fun _ => rfl) fun o => by cases o <;> rfl

/-- The fields of a sort. -/
def EngineSort.layout : List (Field EngineSort) :=
  [.required "field" field, .required "order" order]

instance : RefusesNull EngineSort := ⟨rfl⟩

instance : HasForms EngineSort :=
  .ofFields EngineSort.layout _ (fun _ => rfl) (fun _ => rfl) (by decide)
    (fun _ => .cons .required <| .cons .required .nil)
    (.cons .required fun _ => .cons .required fun _ => .nil)

/-- The fields of what is counted. -/
def FacetSpec.layout : List (Field FacetSpec) :=
  [.required "fields" fields, .required "pivot_fields" pivotFields, .optional "sort" sort,
    .optional "limit" limit, .optional "min_count" minCount]

instance : RefusesNull FacetSpec := ⟨rfl⟩

instance : HasForms FacetSpec :=
  .ofFields FacetSpec.layout _ (fun _ => rfl) (fun _ => rfl) (by decide)
    (fun _ => .cons .required <| .cons .required <| .cons .optional <| .cons .optional <|
      .cons .optional .nil)
    (.cons .required fun _ => .cons .required fun _ => .cons .optional fun _ =>
      .cons .optional fun _ => .cons .optional fun _ => .nil)

/-- The fields of a query. -/
def EngineQuery.layout : List (Field EngineQuery) :=
  [.optional "request_handler" handler, .optional "query" text, .required "filter_queries" filters,
    .required "fields" fields, .required "sorts" sorts, .optional "start" start,
    .optional "rows" rows, .optional "facet" facet, .optional "time_allowed_ms" timeAllowed,
    .required "params" params]

instance : HasForms EngineQuery :=
  .ofFields EngineQuery.layout _ (fun _ => rfl) (fun _ => rfl) (by decide)
    (fun _ => .cons .optional <| .cons .optional <| .cons .required <| .cons .required <|
      .cons .required <| .cons .optional <| .cons .optional <| .cons .optional <|
      .cons .optional <| .cons .required .nil)
    (.cons .optional fun _ => .cons .optional fun _ => .cons .required fun _ =>
      .cons .required fun _ => .cons .required fun _ => .cons .optional fun _ =>
      .cons .optional fun _ => .cons .optional fun _ => .cons .optional fun _ =>
      .cons .required fun _ => .nil)

/-! ## Documents -/

/-- The one field of a document. -/
def Document.layout : List (Field Document) := [.required "fields" fields]

instance : RefusesNull Document := ⟨rfl⟩

instance : HasForms Document :=
  .ofFields Document.layout _ (fun _ => rfl) (fun _ => rfl) (by decide)
    (fun _ => .cons .required .nil) (.cons .required fun _ => .nil)

/-- The fields of a page. -/
def Page.layout : List (Field Page) := [.required "docs" docs, .required "num_found" found]

instance : RefusesNull Page := ⟨rfl⟩

instance : HasForms Page :=
  .ofFields Page.layout _ (fun _ => rfl) (fun _ => rfl) (by decide)
    (fun _ => .cons .required <| .cons .required .nil)
    (.cons .required fun _ => .cons .required fun _ => .nil)

/-! ## Counted values -/

/-- The fields of a counted value. -/
def CountedValue.layout : List (Field CountedValue) :=
  [.required "name" name, .required "count" count]

instance : RefusesNull CountedValue := ⟨rfl⟩

instance : HasForms CountedValue :=
  .ofFields CountedValue.layout _ (fun _ => rfl) (fun _ => rfl) (by decide)
    (fun _ => .cons .required <| .cons .required .nil)
    (.cons .required fun _ => .cons .required fun _ => .nil)

/-- The fields of a counted field. -/
def CountedField.layout : List (Field CountedField) :=
  [.required "name" name, .required "values" values]

instance : RefusesNull CountedField := ⟨rfl⟩

instance : HasForms CountedField :=
  .ofFields CountedField.layout _ (fun _ => rfl) (fun _ => rfl) (by decide)
    (fun _ => .cons .required <| .cons .required .nil)
    (.cons .required fun _ => .cons .required fun _ => .nil)

/-! ## Completions and corrections -/

/-- The fields of a completed word. -/
def Completion.layout : List (Field Completion) :=
  [.required "term" term, .required "payload" payload, .required "weight" weight]

instance : RefusesNull Completion := ⟨rfl⟩

instance : HasForms Completion :=
  .ofFields Completion.layout _ (fun _ => rfl) (fun _ => rfl) (by decide)
    (fun _ => .cons .required <| .cons .required <| .cons .required .nil)
    (.cons .required fun _ => .cons .required fun _ => .cons .required fun _ => .nil)

/-- The fields of the completed words of a dictionary. -/
def Completions.layout : List (Field Completions) :=
  [.required "dictionary" dictionary, .required "suggestions" words]

instance : RefusesNull Completions := ⟨rfl⟩

instance : HasForms Completions :=
  .ofFields Completions.layout _ (fun _ => rfl) (fun _ => rfl) (by decide)
    (fun _ => .cons .required <| .cons .required .nil)
    (.cons .required fun _ => .cons .required fun _ => .nil)

/-- The fields of a corrected word. -/
def Correction.layout : List (Field Correction) :=
  [.required "original" misspelled, .required "correction" correction]

instance : RefusesNull Correction := ⟨rfl⟩

instance : HasForms Correction :=
  .ofFields Correction.layout _ (fun _ => rfl) (fun _ => rfl) (by decide)
    (fun _ => .cons .required <| .cons .required .nil)
    (.cons .required fun _ => .cons .required fun _ => .nil)

/-- The fields of a corrected text. -/
def Collation.layout : List (Field Collation) :=
  [.required "query_string" text, .required "hits" hits, .required "corrections" corrections]

instance : RefusesNull Collation := ⟨rfl⟩

instance : HasForms Collation :=
  .ofFields Collation.layout _ (fun _ => rfl) (fun _ => rfl) (by decide)
    (fun _ => .cons .required <| .cons .required <| .cons .required .nil)
    (.cons .required fun _ => .cons .required fun _ => .cons .required fun _ => .nil)

/-- The one field of a spelling check. -/
def Spelling.layout : List (Field Spelling) := [.required "collations" collations]

instance : RefusesNull Spelling := ⟨rfl⟩

instance : HasForms Spelling :=
  .ofFields Spelling.layout _ (fun _ => rfl) (fun _ => rfl) (by decide)
    (fun _ => .cons .required .nil) (.cons .required fun _ => .nil)

/-! ## Responses -/

/-- The fields of a response. -/
def EngineResponse.layout : List (Field EngineResponse) :=
  [.defaulted "header" .empty header, .defaulted "query_time_ms" 0 elapsed,
    .optional "results" results, .defaulted "facet_fields" [] facetFields,
    .defaulted "facet_pivot" [] facetPivots, .optional "suggestions" completions,
    .optional "spellcheck" spelling]

instance : HasForms EngineResponse :=
  .ofFields EngineResponse.layout _ (fun _ => rfl) (fun _ => rfl) (by decide)
    (fun _ => .cons .defaulted <| .cons .defaulted <| .cons .optional <| .cons .defaulted <|
      .cons .defaulted <| .cons .optional <| .cons .optional .nil)
    (.cons .defaulted fun _ => .cons .defaulted fun _ => .cons .optional fun _ =>
      .cons .defaulted fun _ => .cons .defaulted fun _ => .cons .optional fun _ =>
      .cons .optional fun _ => .nil)

end CatalogSearch
