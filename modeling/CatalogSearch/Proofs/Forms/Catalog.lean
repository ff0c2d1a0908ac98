import CatalogSearch.Proofs.Forms.Records
import CatalogSearch.Request
import CatalogSearch.Response

/-!
# Forms of what the catalog is asked and answers

- The forms of the directives of a request, which are tagged with their kind.
- The forms of types of records, and of the records.
- The forms of the counted values of attributes.
-/

namespace CatalogSearch

/-! ## Directives -/

instance : RefusesNull SortOrder := ⟨rfl⟩

instance : HasForms SortOrder :=
  .ofWords SortOrder.name _ (fun _ => rfl) (fun _ => rfl) fun o => by cases o <;> rfl

instance : RefusesNull FacetOrder := ⟨rfl⟩

instance : HasForms FacetOrder :=
  .ofWords FacetOrder.name _ (fun _ => rfl) (fun _ => rfl) fun o => by cases o <;> rfl

/-- The fields of a requested sort. -/
def SortBy.layout : List (Field SortBy) :=
  [.required "property" property, .required "order" order]

instance : RefusesNull SortBy := ⟨rfl⟩

instance : HasForms SortBy :=
  .ofFields SortBy.layout _ (fun _ => rfl) (fun _ => rfl) (by decide)
    (fun _ => .cons .required <| .cons .required .nil)
    (.cons .required fun _ => .cons .required fun _ => .nil)

/-- The fields of a request for counted values. -/
def TermFacet.layout : List (Field TermFacet) :=
  [.required "facet_attributes" attributes, .required "sort_key" order,
    .required "facet_limit" limit, .required "min_facet_count" minCount]

instance : RefusesNull TermFacet := ⟨rfl⟩

instance : HasForms TermFacet :=
  .ofFields TermFacet.layout _ (fun _ => rfl) (fun _ => rfl) (by decide)
    (fun _ => .cons .required <| .cons .required <| .cons .required <| .cons .required .nil)
    (.cons .required fun _ => .cons .required fun _ => .cons .required fun _ =>
      .cons .required fun _ => .nil)

namespace Property

/-- The ways to give a directive: an object whose only member is its value under the tag of its
kind. -/
inductive IsForm : Property → Json → Prop where
  | text {s : String} {j : Json} (h : HasForms.IsForm s j) : IsForm (.text s) (.obj [("String", j)])
  | flag {b : Bool} {j : Json} (h : HasForms.IsForm b j) : IsForm (.flag b) (.obj [("Bool", j)])
  | long {i : Int64} {j : Json} (h : HasForms.IsForm i j) : IsForm (.long i) (.obj [("Long", j)])
  | sorts {list : List SortBy} {j : Json} (h : HasForms.IsForm list j) :
    IsForm (.sorts list) (.obj [("SortBys", j)])
  | termFacet {facet : TermFacet} {j : Json} (h : HasForms.IsForm facet j) :
    IsForm (.termFacet facet) (.obj [("TermFacet", j)])

/-- What gives no directive, for what stands under its tag. -/
inductive IsFlawed : Json → Prop where
  | null : IsFlawed .null
  | text {j : Json} (h : HasForms.IsFlawed String j) : IsFlawed (.obj [("String", j)])
  | flag {j : Json} (h : HasForms.IsFlawed Bool j) : IsFlawed (.obj [("Bool", j)])
  | long {j : Json} (h : HasForms.IsFlawed Int64 j) : IsFlawed (.obj [("Long", j)])
  | sorts {j : Json} (h : HasForms.IsFlawed (List SortBy) j) : IsFlawed (.obj [("SortBys", j)])
  | termFacet {j : Json} (h : HasForms.IsFlawed TermFacet j) : IsFlawed (.obj [("TermFacet", j)])

instance : HasForms Property where
  IsForm := IsForm
  IsFlawed := IsFlawed
  isForm_toJson p := by
    cases p with
    | text s => exact .text (isForm_toJson s)
    | flag b => exact .flag (isForm_toJson b)
    | long i => exact .long (isForm_toJson i)
    | sorts list => exact .sorts (isForm_toJson list)
    | termFacet facet => exact .termFacet (isForm_toJson facet)
  ofJson?_of_isForm := by
    intro p j h
    cases h with
    | text h => exact congrArg (Option.map Property.text) (ofJson?_of_isForm h)
    | flag h => exact congrArg (Option.map Property.flag) (ofJson?_of_isForm h)
    | long h => exact congrArg (Option.map Property.long) (ofJson?_of_isForm h)
    | sorts h => exact congrArg (Option.map Property.sorts) (ofJson?_of_isForm h)
    | termFacet h => exact congrArg (Option.map Property.termFacet) (ofJson?_of_isForm h)
  ofJson?_of_isFlawed := by
    intro j h
    cases h with
    | null => rfl
    | text h => exact congrArg (Option.map Property.text) (HasForms.ofJson?_of_isFlawed h)
    | flag h => exact congrArg (Option.map Property.flag) (HasForms.ofJson?_of_isFlawed h)
    | long h => exact congrArg (Option.map Property.long) (HasForms.ofJson?_of_isFlawed h)
    | sorts h => exact congrArg (Option.map Property.sorts) (HasForms.ofJson?_of_isFlawed h)
    | termFacet h => exact congrArg (Option.map Property.termFacet) (HasForms.ofJson?_of_isFlawed h)

end Property

/-! ## Types -/

instance : RefusesNull Format := ⟨rfl⟩

instance : HasForms Format :=
  .ofWords Format.name _ (fun _ => rfl) (fun _ => rfl) fun f => by cases f <;> rfl

/-- The fields of a described attribute. -/
def Descriptor.layout : List (Field Descriptor) :=
  [.required "name" name, .required "format" format, .required "multivalued" multivalued]

instance : RefusesNull Descriptor := ⟨rfl⟩

instance : HasForms Descriptor :=
  .ofFields Descriptor.layout _ (fun _ => rfl) (fun _ => rfl) (by decide)
    (fun _ => .cons .required <| .cons .required <| .cons .required .nil)
    (.cons .required fun _ => .cons .required fun _ => .cons .required fun _ => .nil)

/-- The fields of a type. -/
def MetacardType.layout : List (Field MetacardType) :=
  [.required "name" name, .required "descriptors" descriptors]

instance : RefusesNull MetacardType := ⟨rfl⟩

instance : HasForms MetacardType :=
  .ofFields MetacardType.layout _ (fun _ => rfl) (fun _ => rfl) (by decide)
    (fun _ => .cons .required <| .cons .required .nil)
    (.cons .required fun _ => .cons .required fun _ => .nil)

/-! ## Records -/

/-- The fields of an attribute. -/
def Attribute.layout : List (Field Attribute) :=
  [.required "name" name, .required "values" values]

instance : RefusesNull Attribute := ⟨rfl⟩

instance : HasForms Attribute :=
  .ofFields Attribute.layout _ (fun _ => rfl) (fun _ => rfl) (by decide)
    (fun _ => .cons .required <| .cons .required .nil)
    (.cons .required fun _ => .cons .required fun _ => .nil)

/-- The fields of a record. -/
def Metacard.layout : List (Field Metacard) :=
  [.required "metacard_type" type, .required "attributes" attributes]

instance : HasForms Metacard :=
  .ofFields Metacard.layout _ (fun _ => rfl) (fun _ => rfl) (by decide)
    (fun _ => .cons .required <| .cons .required .nil)
    (.cons .required fun _ => .cons .required fun _ => .nil)

/-! ## Counted values of attributes -/

/-- The fields of counted values. -/
def FacetResult.layout : List (Field FacetResult) :=
  [.required "attribute" name, .required "values" values, .required "counts" counts]

instance : RefusesNull FacetResult := ⟨rfl⟩

instance : HasForms FacetResult :=
  .ofFields FacetResult.layout _ (fun _ => rfl) (fun _ => rfl) (by decide)
    (fun _ => .cons .required <| .cons .required <| .cons .required .nil)
    (.cons .required fun _ => .cons .required fun _ => .cons .required fun _ => .nil)

end CatalogSearch
