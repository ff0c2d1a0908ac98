import CatalogSearch.Engine.Query
import CatalogSearch.Schema.Basic
import CatalogSearch.Text.Part

/-!
# The suffix schema

A schema in which an attribute is stored under its name with a suffix for its format.

- `Suffix.of`: the suffix of a format; `Suffix.canSort`: fields that can be sorted by.
- `SuffixSchema`: the registered attributes and types, with `register` and `registerType`.
- `SuffixSchema.schema`: the questions of a schema answered by suffixes.
-/

namespace CatalogSearch

namespace Suffix

def text : String := "_txt"
def xml : String := "_xml"
def date : String := "_tdt"
def geometry : String := "_geo"
def binary : String := "_bin"
def object : String := "_obj"
def boolean : String := "_bool"
def integer : String := "_int"
def long : String := "_lng"
def float : String := "_flt"
def double : String := "_dbl"
def short : String := "_shr"

/-- The end of a field that holds a sortable copy of a text. -/
def sortCopy : String := "_sort"

/-- The character that every suffix starts with. -/
def mark : Char := '_'

/-- The suffix of a format (`suffix_for`). -/
def of : Format → String
  | .string => text
  | .xml => xml
  | .date => date
  | .geometry => geometry
  | .binary => binary
  | .object => object
  | .boolean => boolean
  | .short => short
  | .integer => integer
  | .long => long
  | .float => float
  | .double => double

/-- The suffixes of all formats. -/
def all : List String :=
  [text, xml, date, geometry, binary, object, boolean, integer, long, float, double, short]

/-- The suffix of a format is among all suffixes. -/
theorem of_mem_all (f : Format) : of f ∈ all := by
  cases f <;> simp [of, all]

/-- The field holds places. -/
def isGeometry (field : String) : Bool := Text.endsIn field geometry

/-- The engine cannot sort by binary values and by objects (`is_sortable`). -/
def canSort (field : String) : Bool :=
  !(Text.endsIn field binary || Text.endsIn field object)

end Suffix

/-- Attributes and types of records, each under its name (`DynamicSchema`). -/
structure SuffixSchema where
  attributes : KeyMap Format := .empty
  types : KeyMap MetacardType := .empty
  deriving Inhabited

namespace SuffixSchema

/-- The private field that names the type of a record. -/
def typeField : String := "metacard_type_name"

/-- The private field with the revision of a document. -/
def versionField : String := "_version_"

/-- A piece of the names of private fields with split words. -/
def tokenizedPart : String := "_tokenized"

/-- Registers an attribute (`with_attribute`). -/
def register (s : SuffixSchema) (name : String) (format : Format) : SuffixSchema :=
  { s with attributes := s.attributes.insert name format }

/-- Registers a type and the attributes it describes (`with_type`). -/
def registerType (s : SuffixSchema) (type : MetacardType) : SuffixSchema :=
  let described := type.descriptors.foldl (fun s d => s.register d.name d.format) s
  { described with types := described.types.insert type.name type }

/-- The field of a registered attribute (`typed_field`). -/
def typedField? (s : SuffixSchema) (name : String) : Option String :=
  (s.attributes.get? name).map fun format => name ++ Suffix.of format

/-- The name of an attribute from its field: a suffix from the last mark on is dropped. -/
def shownName (field : String) : String :=
  match Text.cutLast Suffix.mark field with
  | some (front, back) => if back ∈ Suffix.all then front else field
  | none => field

/-- Text fields are sorted by their copy. -/
def sortKey (field : String) : String :=
  if Text.endsIn field Suffix.text then field ++ Suffix.sortCopy else field

/-- The registered type that a document names. -/
def typeOf (s : SuffixSchema) (doc : Document) : Except MetacardFault MetacardType :=
  match (doc.first? typeField).bind Json.asString? with
  | none => .error .noType
  | some name =>
    match s.types.get? name with
    | none => .error (.unknownType name)
    | some type => .ok type

/-- Sortable copies, split words and the engine's own fields are private. -/
def isPrivate (field : String) : Bool :=
  Text.endsIn field Suffix.sortCopy || Text.holds field tokenizedPart ||
    field ∈ [typeField, scoreField, distanceField, versionField]

/-- The format of an attribute: what the type of its record says, or else what is registered. -/
def formatOf? (s : SuffixSchema) (type : MetacardType) (name : String) : Option Format :=
  match type.descriptor? name with
  | some d => some d.format
  | none => s.attributes.get? name

/-- Writes an attribute of a record of a type under its suffixed name. -/
def addAttribute (s : SuffixSchema) (type : MetacardType) (a : Attribute) : DocumentBuilder Unit :=
  match s.formatOf? type a.name with
  | none => throw (.unknownFormat a.name)
  | some format => modify (Document.put · (a.name ++ Suffix.of format) a.values)

/-- Writes the attributes of a record in the order of their names, then the name of its type. -/
def addFields (s : SuffixSchema) (m : Metacard) : DocumentBuilder Unit := do
  m.attributes.values.forM (s.addAttribute m.type)
  modify (Document.put · typeField [.str m.type.name])

/-- The schema of the registered attributes and types. -/
def schema (s : SuffixSchema) : Schema where
  shownName := shownName
  field? name _ _ _ := s.typedField? name
  storedFields name := (s.typedField? name).toList
  sortKey := sortKey
  typeOf := s.typeOf
  shownValues _ values := values
  isPrivate := isPrivate
  addFields := s.addFields

end SuffixSchema

end CatalogSearch
