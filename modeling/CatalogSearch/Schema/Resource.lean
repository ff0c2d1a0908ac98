import CatalogSearch.Decimal.Notation
import CatalogSearch.Schema.Suffixed

/-!
# Resources

The plain record type of a catalog, with a schema that knows it and numbered sample documents.

- `Resource.type`, `Resource.schema`: the type and its schema.
- `Resource.document`: a stored resource with an identifier and a title.
- `Resource.ids`, `Resource.documents`: as many numbered ones as wanted.
-/

namespace CatalogSearch

namespace Resource

/-- The attribute with the title of a record. -/
def title : String := "title"

/-- The type of plain resources. -/
def type : MetacardType where
  name := "resource"
  descriptors :=
    [{ name := Metacard.idAttribute, format := .string },
      { name := title, format := .string },
      { name := "anyText", format := .string },
      { name := Metacard.effectiveAttribute, format := .date },
      { name := Metacard.locationAttribute, format := .geometry },
      { name := "thumbnail", format := .binary },
      { name := "tags", format := .string, multivalued := true }]

/-- The schema that knows resources only. -/
def schema : SuffixSchema :=
  SuffixSchema.registerType {} type

/-- A stored resource. -/
def document (id name : String) : Document :=
  ((Document.empty.add (Metacard.idAttribute ++ Suffix.text) (.str id)).add
    (title ++ Suffix.text) (.str name)).add SuffixSchema.typeField (.str type.name)

/-- The identifier with a number. -/
def numberedId (n : Nat) : String := "id-" ++ intText n

/-- The first `count` identifiers, from zero. -/
def ids (count : Nat) : List String :=
  (List.range count).map numberedId

/-- The stored resources with these identifiers. -/
def documents (count : Nat) : List Document :=
  (List.range count).map fun n => document (numberedId n) ("Title " ++ intText n)

end Resource

end CatalogSearch
