import CatalogSearch.Proofs.Forms.Catalog
import CatalogSearch.Proofs.Forms.Engine

/-!
# What is written is read back

- `RoundTrips`: values of a type are read back from what they are written as and from all their
  other forms, and flawed forms are refused.
- `forms_roundTrip`: queries, responses, documents, records and directives are.
-/

namespace CatalogSearch

/-- How the values of a type are read. -/
structure RoundTrips (α : Type) [Coded α] [HasForms α] : Prop where
  /-- What is written is read back. -/
  written : ∀ x : α, ofJson? (toJson x) = some x
  /-- At every level, an object may hold further members and leave out what is nothing or has a
  value of its own, and a structure may be a list of its fields, which may end before fields with a
  value of their own. -/
  given : ∀ (x : α) (j : Json), IsForm x j → ofJson? j = some x
  /-- At no level may a field be left out that must be there, or be `null` if it has a value of its
  own. -/
  refused : ∀ j : Json, HasForms.IsFlawed α j → (ofJson? j : Option α) = none

theorem roundTrips (α : Type) [Coded α] [HasForms α] : RoundTrips α where
  written x := ofJson?_of_isForm (isForm_toJson x)
  given _ _ := ofJson?_of_isForm
  refused _ := HasForms.ofJson?_of_isFlawed

/-- **Forms are read back.** Queries, responses, documents, records and directives are read back
from all their forms, however deep their parts are nested, and from no flawed one. -/
theorem forms_roundTrip :
    RoundTrips EngineQuery ∧ RoundTrips EngineResponse ∧ RoundTrips Document ∧
      RoundTrips Metacard ∧ RoundTrips Properties :=
  ⟨roundTrips _, roundTrips _, roundTrips _, roundTrips _, roundTrips _⟩

/-- A response with nothing but a nested count in it, which is a list without its last field and
stands beside a member that is no field. -/
example : (ofJson? (.obj [
    ("facet_pivot", .arr [.arr [.str "kind,size", .arr [.arr [.str "kind", .null, .int 2]]]]),
    ("shards", .int 3)]) : Option EngineResponse) =
      some { facetPivots := [("kind,size", [.mk "kind" .null 2 []])] } :=
  rfl

/-- The last field of a nested count may be missing, but not be nothing. -/
example : (ofJson? (.arr [.str "kind", .null, .int 2, .null]) : Option Pivot) = none :=
  rfl

end CatalogSearch
