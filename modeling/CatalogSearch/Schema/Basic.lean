import CatalogSearch.Document
import CatalogSearch.Failure
import CatalogSearch.Metacard

/-!
# Schemas

A schema says under which fields of the engine the attributes of records are stored.

- `Schema`: the questions that the service asks of it.
- `Schema.metacard`, `Schema.document`: a document read as a record, and a record written as a
  document.
- `FieldOptions`: hints for a field, with the one that the service gives.
-/

namespace CatalogSearch

/-- Free hints for the choice of a field. -/
abbrev FieldOptions := KeyMap Json

/-- The hint that upper and lower case differ. -/
def caseSensitiveOption : FieldOptions := KeyMap.empty.insert "caseSensitive" (.bool true)

/-- Builds up a document; what was built before a fault stays. -/
abbrev DocumentBuilder := ExceptT MetacardFault (StateM Document)

/-- How attributes of records and fields of the engine belong together (`SchemaResolver`). -/
structure Schema where
  /-- The name of an attribute as it is shown, from its field (`resolve_field_name`). -/
  shownName : String → String
  /-- The field of an attribute for values of a format, for a phrase or an exact value. -/
  field? : String → Format → Bool → FieldOptions → Option String
  /-- All fields an attribute is stored under, the most specific first (`anonymous_fields`). -/
  storedFields : String → List String
  /-- What to sort by for a field (`sort_key`). -/
  sortKey : String → String
  /-- The type of the record in a document (`metacard_type`). -/
  typeOf : Document → Except MetacardFault MetacardType
  /-- The values of a field as they are shown (`doc_values`). -/
  shownValues : String → List Json → List Json
  /-- The field is kept for the engine's own use (`is_private_field`). -/
  isPrivate : String → Bool
  /-- Adds the fields of a record to the document at hand (`add_fields`). -/
  addFields : Metacard → DocumentBuilder Unit

namespace Schema

/-- The record that a document holds: its type, and an attribute for each field that is not private,
a later one over an earlier one of the same shown name (`create_metacard`). -/
def metacard (schema : Schema) (doc : Document) : Except MetacardFault Metacard := do
  let type ← schema.typeOf doc
  let shown := doc.fields.filter fun f => !schema.isPrivate f.1
  return shown.foldl
    (fun m f => m.set ⟨schema.shownName f.1, schema.shownValues f.1 f.2⟩) { type := type }

/-- The document that a record is written as. -/
def document (schema : Schema) (m : Metacard) : Except MetacardFault Document :=
  match (schema.addFields m).run Document.empty with
  | (.ok _, doc) => .ok doc
  | (.error fault, _) => .error fault

end Schema

end CatalogSearch
