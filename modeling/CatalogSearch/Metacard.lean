import CatalogSearch.Json.Coded

/-!
# Catalog records

- `Format`, `Descriptor`, `MetacardType`: what kind of values the attributes of a record hold.
- `Attribute`, `Metacard`: a record is a type with attributes ordered by name.
- `Hit`: a record found by a search, with the scores reported for it.
- `ContentType`: the kind of content a record describes, with an optional version.
-/

namespace CatalogSearch

/-- The kind of values an attribute holds (`AttributeFormat`). -/
inductive Format where
  | string
  | boolean
  | date
  | short
  | integer
  | long
  | float
  | double
  | geometry
  | xml
  | binary
  | object
  deriving DecidableEq, Inhabited

namespace Format

/-- Every format with its written name. -/
def names : List (String × Format) :=
  [("STRING", string), ("BOOLEAN", boolean), ("DATE", date), ("SHORT", short),
    ("INTEGER", integer), ("LONG", long), ("FLOAT", float), ("DOUBLE", double),
    ("GEOMETRY", geometry), ("XML", xml), ("BINARY", binary), ("OBJECT", object)]

/-- The written name. -/
def name : Format → String
  | string => "STRING"
  | boolean => "BOOLEAN"
  | date => "DATE"
  | short => "SHORT"
  | integer => "INTEGER"
  | long => "LONG"
  | float => "FLOAT"
  | double => "DOUBLE"
  | geometry => "GEOMETRY"
  | xml => "XML"
  | binary => "BINARY"
  | object => "OBJECT"

instance : Coded Format := ⟨fun f => .str f.name, word? names⟩

end Format

/-- An attribute that records of a type may carry (`AttributeDescriptor`). -/
structure Descriptor where
  name : String
  format : Format
  multivalued : Bool := false
  deriving DecidableEq, Inhabited

instance : Coded Descriptor where
  toJson d := object
    [("name", toJson d.name), ("format", toJson d.format), ("multivalued", toJson d.multivalued)]
  ofJson? := record? do
    return {
      name := ← required "name"
      format := ← required "format"
      multivalued := ← required "multivalued" }

/-- The type of a record: a name and the attributes it describes. -/
structure MetacardType where
  name : String
  descriptors : List Descriptor := []
  deriving DecidableEq, Inhabited

/-- The first descriptor of an attribute. -/
def MetacardType.descriptor? (t : MetacardType) (name : String) : Option Descriptor :=
  t.descriptors.find? fun d => d.name = name

instance : Coded MetacardType where
  toJson t := object [("name", toJson t.name), ("descriptors", toJson t.descriptors)]
  ofJson? := record? do
    return { name := ← required "name", descriptors := ← required "descriptors" }

/-- A named list of values. -/
structure Attribute where
  name : String
  values : List Json
  deriving Inhabited

/-- The first value. -/
def Attribute.first? (a : Attribute) : Option Json := a.values.head?

instance : Coded Attribute where
  toJson a := object [("name", toJson a.name), ("values", toJson a.values)]
  ofJson? := record? do
    return { name := ← required "name", values := ← required "values" }

/-- A catalog record: its type and its attributes by name. -/
structure Metacard where
  type : MetacardType
  attributes : KeyMap Attribute := .empty
  deriving Inhabited

namespace Metacard

/-- The attribute that names a record. -/
def idAttribute : String := "id"

/-- The attribute with the date a record took effect. -/
def effectiveAttribute : String := "effective"

/-- The attribute with the place a record is about. -/
def locationAttribute : String := "location"

/-- The attribute with the name of the content type. -/
def contentTypeAttribute : String := "metadata-content-type"

/-- The attribute with the version of the content type. -/
def contentVersionAttribute : String := "metadata-content-type-version"

/-- Gives the record an attribute, over any of the same name (`set_attribute`). -/
def set (m : Metacard) (a : Attribute) : Metacard :=
  { m with attributes := m.attributes.insert a.name a }

/-- The attribute of a name. -/
def attribute? (m : Metacard) (name : String) : Option Attribute := m.attributes.get? name

/-- The first value of an attribute. -/
def value? (m : Metacard) (name : String) : Option Json :=
  (m.attribute? name).bind Attribute.first?

/-- The identifier of the record, if it is a text. -/
def id? (m : Metacard) : Option String :=
  (m.value? idAttribute).bind Json.asString?

/-- An attribute that was set is found under its name. -/
@[simp] theorem attribute?_set (m : Metacard) (a : Attribute) :
    (m.set a).attribute? a.name = some a :=
  KeyMap.get?_insert_self ..

end Metacard

instance : Coded Metacard where
  toJson m := object
    [("metacard_type", toJson m.type), ("attributes", toJson m.attributes)]
  ofJson? := record? do
    return { type := ← required "metacard_type", attributes := ← required "attributes" }

/-- A record found by a search, with the scores reported for it. -/
structure Hit where
  metacard : Metacard
  /-- How well it fits the query. -/
  relevance : Option Float := none
  /-- How far it lies from the origin of the search. -/
  meters : Option Float := none

instance : Coded Hit where
  toJson h := object
    [("metacard", toJson h.metacard), ("relevance_score", toJson h.relevance),
      ("distance_in_meters", toJson h.meters)]
  ofJson? := record? do
    return {
      metacard := ← required "metacard"
      relevance := ← optional "relevance_score"
      meters := ← optional "distance_in_meters" }

/-- The kind of content a record describes. -/
structure ContentType where
  name : String
  /-- Its version, if it has one. -/
  version : Option String
  deriving DecidableEq, Inhabited

instance : Coded ContentType where
  toJson c := object [("name", toJson c.name), ("version", toJson c.version)]
  ofJson? := record? do
    return { name := ← required "name", version := ← optional "version" }

end CatalogSearch
