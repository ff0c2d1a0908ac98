import CatalogSearch.Facets
import CatalogSearch.Proofs.Schema.Naming
import CatalogSearch.Schema.Resource

/-!
# Attributes that are counted

An attribute is counted under its field, and the counts come back under the field's name, from
which the attribute is read off again. An attribute without a field falls back on its own name,
which is taken for a field if it holds the mark of a suffix.

- `SuffixSchema.countedField?`: what is counted for an attribute.
- `EngineQuery.withFacets_answered`: registered attributes are counted under their fields, and the
  answer is reported under the names that were asked for.
- `SuffixSchema.Stores`: the schema stores some attribute under a field.
- `EngineQuery.withFacets_typed_iff`: only fields of attributes are counted iff no unknown attribute
  has a name that holds the mark.
-/

namespace CatalogSearch

/-! ## Lists read with a fallback -/

section Fallback

variable {α β : Type}

/-- A fallback takes nothing away. -/
theorem length_filterMap_le_or (f fallback : α → Option β) (xs : List α) :
    (xs.filterMap f).length ≤ (xs.filterMap fun x => (f x).or (fallback x)).length := by
  induction xs with
  | nil => exact Nat.le_refl 0
  | cons x xs ih =>
    rw [List.filterMap_cons, List.filterMap_cons]
    cases f x with
    | some y => exact Nat.succ_le_succ ih
    | none => cases fallback x with
      | none => exact ih
      | some y => exact Nat.le_succ_of_le ih

/-- With a fallback for the elements that are skipped, a list is read the same iff the fallback
skips them as well. -/
theorem filterMap_or_eq_iff {f fallback : α → Option β} {xs : List α} :
    xs.filterMap (fun x => (f x).or (fallback x)) = xs.filterMap f ↔
      ∀ x ∈ xs, f x = none → fallback x = none := by
  induction xs with
  | nil => simp
  | cons x xs ih =>
    rw [List.forall_mem_cons, List.filterMap_cons, List.filterMap_cons]
    cases hx : f x with
    | some y => simpa using ih
    | none =>
      cases hfallback : fallback x with
      | none => simpa using ih
      | some y =>
        -- one list is longer than the other
        refine iff_of_false (fun heq => ?_) fun h => nomatch h.1 rfl
        have hlength : (xs.filterMap fun x => (f x).or (fallback x)).length + 1 =
            (xs.filterMap f).length := congrArg List.length heq
        have hle := length_filterMap_le_or f fallback xs
        omega

end Fallback

/-! ## What is counted for an attribute -/

namespace SuffixSchema

variable {s : SuffixSchema}

/-- What is counted for an attribute: its field, or else its own name if it holds the mark. -/
def countedField? (s : SuffixSchema) (name : String) : Option String :=
  (s.typedField? name).or (if Suffix.mark ∈ name.toList then some name else none)

theorem mark_mem_of_typedField {name field : String} (h : s.typedField? name = some field) :
    Suffix.mark ∈ field.toList := by
  obtain ⟨format, -, rfl⟩ := Option.map_eq_some_iff.mp h
  exact mark_mem_append name format

theorem shownName_of_typedField {name field : String} (h : s.typedField? name = some field) :
    shownName field = name := by
  obtain ⟨format, -, rfl⟩ := Option.map_eq_some_iff.mp h
  exact shownName_append name format

/-- The fallback on the name of an attribute, and the test for a mark. -/
theorem field?_schema (name : String) : TermFacet.field? s.schema name = s.countedField? name := by
  have hstored : s.schema.storedFields name = (s.typedField? name).toList := rfl
  unfold TermFacet.field? countedField?
  dsimp only
  rw [hstored]
  cases hfield : s.typedField? name with
  | none => rfl
  | some field => exact if_pos (mark_mem_of_typedField hfield)

/-- Fields of attributes show the names of these attributes. -/
theorem map_shownName {names fields : List String}
    (h : names.map s.typedField? = fields.map some) : fields.map shownName = names := by
  induction names generalizing fields with
  | nil =>
    rw [List.map_eq_nil_iff.mp h.symm]
    rfl
  | cons name names ih =>
    cases fields with
    | nil => cases h
    | cons field fields =>
      obtain ⟨hfield, hrest⟩ := List.cons.inj h
      rw [List.map_cons, shownName_of_typedField hfield, ih hrest]

/-- Registered attributes have fields. -/
theorem exists_typedFields {names : List String}
    (h : ∀ name ∈ names, (s.attributes.get? name).isSome) :
    ∃ fields : List String, names.map s.typedField? = fields.map some := by
  induction names with
  | nil => exact ⟨[], rfl⟩
  | cons name names ih =>
    obtain ⟨hname, hrest⟩ := List.forall_mem_cons.mp h
    obtain ⟨format, hformat⟩ := Option.isSome_iff_exists.mp hname
    obtain ⟨fields, hfields⟩ := ih hrest
    refine ⟨(name ++ Suffix.of format) :: fields, ?_⟩
    rw [List.map_cons, List.map_cons, hfields, typedField?, hformat]
    rfl

/-- Attributes with fields are counted under these. -/
theorem filterMap_countedField {names fields : List String}
    (h : names.map s.typedField? = fields.map some) :
    names.filterMap s.countedField? = fields := by
  have hnone : none ∉ names.map s.typedField? := by
    rw [h]
    simp
  calc names.filterMap s.countedField?
    _ = names.filterMap s.typedField? :=
      filterMap_or_eq_iff.mpr fun name hname hunknown =>
        absurd (hunknown ▸ List.mem_map_of_mem hname) hnone
    _ = (names.map s.typedField?).filterMap id := by
      rw [List.filterMap_map]
      rfl
    _ = fields := by
      rw [h, List.filterMap_map]
      exact List.filterMap_some

end SuffixSchema

/-! ## Asked and answered -/

/-- The results that are reported for `names` when the engine counted `counted`. -/
structure ReportsCounts (names : List String) (counted : List CountedField)
    (results : List FacetResult) : Prop where
  /-- There is one for each name, in order. -/
  names : results.map (·.name) = names
  /-- Each has as many counts as values. -/
  even : ∀ f ∈ results, f.values.length = f.counts.length
  /-- Value by value, they are the pairs of the engine. -/
  pairs : results.map (fun f => f.values.zip f.counts) =
    counted.map fun f => f.values.map fun v => (v.name, v.count)

theorem reportsCounts_results (schema : Schema) (counted : List CountedField) :
    ReportsCounts (counted.map fun f => schema.shownName f.name) counted
      (counted.map (CountedField.result schema)) where
  names := by
    rw [List.map_map]
    rfl
  even := by
    intro result hresult
    obtain ⟨f, -, rfl⟩ := List.mem_map.mp hresult
    simp [CountedField.result]
  pairs := by
    rw [List.map_map]
    exact List.map_congr_left fun f _ => List.zip_map'

namespace EngineQuery

/-- The query of a request for counts asks for these fields beside the ones that it asked for. -/
theorem withFacets_of_facet {s : SuffixSchema} {p : Properties} {facet : TermFacet}
    (h : p.termFacet? Properties.facet = some facet) (q : EngineQuery) :
    q.withFacets s.schema p = (q.withFacet { q.facetSpec with
      fields := q.facetSpec.fields ++ facet.attributes.filterMap s.countedField?
      sort := some facet.order.name
      limit := some facet.limit
      minCount := some facet.minCount }, true) := by
  have hfields : TermFacet.field? s.schema = s.countedField? := funext SuffixSchema.field?_schema
  unfold withFacets countFacets
  rw [h, hfields]

/-- **Asked and answered.** A request to count registered attributes adds the field of each of them,
in order, to what the query counts, and sets the order and the limits of the counts. When the engine
answers with these fields, their counts are reported under the names that were asked for. -/
theorem withFacets_answered (s : SuffixSchema) (q : EngineQuery) (p : Properties)
    (facet : TermFacet) (hp : p.termFacet? Properties.facet = some facet)
    (hknown : ∀ name ∈ facet.attributes, (s.attributes.get? name).isSome) :
    ∃ fields, facet.attributes.map s.typedField? = fields.map some ∧
      q.withFacets s.schema p = ({ q with
        facet := some {
          fields := q.facetSpec.fields ++ fields
          pivotFields := q.facetSpec.pivotFields
          sort := some facet.order.name
          limit := some facet.limit
          minCount := some facet.minCount } }, true) ∧
      ∀ (r : EngineResponse) (a : Annotations), r.facetFields.map (·.name) = fields →
        ∃ results, ReportsCounts facet.attributes r.facetFields results ∧
          a.addFacets s.schema r = if facet.attributes = [] then a
            else a.insert Annotations.facetResults (.facets results) := by
  obtain ⟨fields, hfields⟩ := SuffixSchema.exists_typedFields hknown
  refine ⟨fields, hfields, ?_, ?_⟩
  · rw [withFacets_of_facet hp, SuffixSchema.filterMap_countedField hfields]
    rfl
  · intro r a hr
    have hshown : (r.facetFields.map fun f => s.schema.shownName f.name) = facet.attributes := by
      rw [← SuffixSchema.map_shownName hfields, ← hr, List.map_map]
      rfl
    have hempty : facet.attributes = [] ↔ r.facetFields.isEmpty := by
      simp [← hshown]
    refine ⟨r.facetFields.map (CountedField.result s.schema), ?_, ?_⟩
    · exact hshown ▸ reportsCounts_results s.schema r.facetFields
    · simp only [Annotations.addFacets, hempty]

/-- A schema with an attribute that is named like the field of another one. -/
def overlappingSchema : SuffixSchema :=
  (SuffixSchema.register {} "a" .string).register "a_txt" .date

/-- A request to count both, one of them twice. -/
def overlappingFacet : TermFacet where
  attributes := ["a_txt", "a", "a_txt"]
  order := .count
  limit := 10
  minCount := 1

/-- What the engine may answer. -/
def overlappingResponse : EngineResponse where
  facetFields := [⟨"a_txt_tdt", [⟨"2024", 3⟩]⟩, ⟨"a_txt", [⟨"x", 2⟩, ⟨"y", 1⟩]⟩, ⟨"a_txt_tdt", []⟩]

theorem withFacets_answered_overlapping :
    let q : EngineQuery := { facet := some { fields := ["b_txt"], pivotFields := ["c_txt,d_txt"] } }
    let p : Properties := KeyMap.empty.insert Properties.facet (.termFacet overlappingFacet)
    let counted := (q.withFacets overlappingSchema.schema p).1.facetSpec
    counted.fields = ["b_txt", "a_txt_tdt", "a_txt", "a_txt_tdt"] ∧
      counted.pivotFields = ["c_txt,d_txt"] ∧
      ∃ results, ReportsCounts ["a_txt", "a", "a_txt"] overlappingResponse.facetFields results ∧
        (Annotations.addFacets overlappingSchema.schema overlappingResponse .empty).facets? =
          some results := by
  intro q p counted
  have hp : p.termFacet? Properties.facet = some overlappingFacet := by decide
  have hknown : ∀ name ∈ overlappingFacet.attributes,
      (overlappingSchema.attributes.get? name).isSome := by decide
  obtain ⟨fields, hfields, hquery, hanswer⟩ :=
    withFacets_answered overlappingSchema q p overlappingFacet hp hknown
  have htyped : overlappingFacet.attributes.map overlappingSchema.typedField? =
      ["a_txt_tdt", "a_txt", "a_txt_tdt"].map some := by decide
  obtain rfl : ["a_txt_tdt", "a_txt", "a_txt_tdt"] = fields :=
    (List.map_inj_right fun _ _ => Option.some.inj).mp (htyped.symm.trans hfields)
  obtain ⟨results, hreports, hnoted⟩ := hanswer overlappingResponse .empty rfl
  refine ⟨?_, ?_, results, hreports, ?_⟩
  · show (q.withFacets overlappingSchema.schema p).1.facetSpec.fields = _
    rw [hquery]
    rfl
  · show (q.withFacets overlappingSchema.schema p).1.facetSpec.pivotFields = _
    rw [hquery]
    rfl
  · rw [hnoted]
    rfl

end EngineQuery

/-! ## Names that pass for fields -/

namespace SuffixSchema

variable {s : SuffixSchema}

/-- The schema stores some attribute under a field. -/
def Stores (s : SuffixSchema) (field : String) : Prop :=
  ∃ name, s.typedField? name = some field

/-- What has no suffix is no field of an attribute. -/
theorem not_stores_of_shownName {field : String} (h : shownName field = field) :
    ¬ s.Stores field := by
  rintro ⟨name, hfield⟩
  obtain ⟨format, -, rfl⟩ := Option.map_eq_some_iff.mp hfield
  exact shownName_append_ne name format h

/-- The name of an attribute falls through the test if it holds no mark. -/
theorem fallback_eq_none_iff {name : String} :
    (if Suffix.mark ∈ name.toList then some name else none) = none ↔
      Suffix.mark ∉ name.toList := by
  split <;> simp [*]

theorem countedField?_eq_some_iff {name field : String} :
    s.countedField? name = some field ↔ s.typedField? name = some field ∨
      (s.typedField? name = none ∧ Suffix.mark ∈ name.toList ∧ name = field) := by
  unfold countedField?
  cases s.typedField? name with
  | some typed => simp
  | none =>
    split <;> simp [*]

/-- Only fields of attributes are counted iff the names that are taken for fields are some. -/
theorem forall_stores_iff {names : List String} :
    (∀ field ∈ names.filterMap s.countedField?, s.Stores field) ↔
      ∀ name ∈ names, s.typedField? name = none → Suffix.mark ∈ name.toList → s.Stores name := by
  rw [List.forall_mem_filterMap]
  refine forall_congr' fun name => forall_congr' fun _ => ?_
  constructor
  · intro h hunknown hmark
    exact h name (countedField?_eq_some_iff.mpr (.inr ⟨hunknown, hmark, rfl⟩))
  · intro h field hfield
    rcases countedField?_eq_some_iff.mp hfield with htyped | ⟨hunknown, hmark, rfl⟩
    · exact ⟨name, htyped⟩
    · exact h hunknown hmark

end SuffixSchema

namespace EngineQuery

/-- **Counted fields.** A request for counts adds, attribute by attribute, the field of one that the
schema knows, and the name of an unknown one that holds the mark of a suffix. So it adds just the
fields of the known attributes iff no unknown one has such a name, and only fields that some
attribute is stored under iff every such name is one of them. -/
theorem withFacets_typed_iff (s : SuffixSchema) (q : EngineQuery) (p : Properties)
    (facet : TermFacet) (hp : p.termFacet? Properties.facet = some facet) :
    let counted := (q.withFacets s.schema p).1.facetSpec.fields
    let added := facet.attributes.filterMap s.countedField?
    counted = q.facetSpec.fields ++ added ∧
      (counted = q.facetSpec.fields ++ facet.attributes.filterMap s.typedField? ↔
        ∀ name ∈ facet.attributes, s.typedField? name = none → Suffix.mark ∉ name.toList) ∧
      ((∀ field ∈ added, s.Stores field) ↔
        ∀ name ∈ facet.attributes, s.typedField? name = none →
          Suffix.mark ∈ name.toList → s.Stores name) := by
  intro counted added
  have hcounted : counted = q.facetSpec.fields ++ added := by
    show (q.withFacets s.schema p).1.facetSpec.fields = _
    rw [withFacets_of_facet hp]
    rfl
  refine ⟨hcounted, ?_, SuffixSchema.forall_stores_iff⟩
  rw [hcounted, List.append_right_inj]
  refine filterMap_or_eq_iff.trans ?_
  simp only [SuffixSchema.fallback_eq_none_iff]

/-- The query that a request for counts of these attributes of resources makes of an empty one. -/
def countingResources (attributes : List String) : EngineQuery :=
  let facet : TermFacet := { attributes, order := .count, limit := 5, minCount := 1 }
  (EngineQuery.withFacets Resource.schema.schema
    (KeyMap.empty.insert Properties.facet (.termFacet facet)) {}).1

theorem withFacets_typed_known :
    (countingResources ["title", "unknown", "tags", "title"]).facetSpec.fields =
      ["title_txt", "tags_txt", "title_txt"] := by
  obtain ⟨-, htyped, -⟩ := withFacets_typed_iff Resource.schema {}
    (KeyMap.empty.insert Properties.facet (.termFacet
      { attributes := ["title", "unknown", "tags", "title"], order := .count, limit := 5,
        minCount := 1 })) _ rfl
  exact htyped.mpr (by decide)

/-- The name of an unknown attribute with a mark in it is counted like a field. -/
theorem withFacets_unknown :
    let counted := (countingResources ["title", "date_created"]).facetSpec.fields
    Resource.schema.typedField? "date_created" = none ∧
      ["title", "date_created"].filterMap Resource.schema.typedField? = ["title_txt"] ∧
      counted = ["title_txt", "date_created"] ∧ ¬ Resource.schema.Stores "date_created" :=
  ⟨by decide, by decide, by decide, SuffixSchema.not_stores_of_shownName (by decide)⟩

end EngineQuery

end CatalogSearch
