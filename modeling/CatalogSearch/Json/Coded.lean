import CatalogSearch.Json.Basic
import CatalogSearch.KeyMap
import CatalogSearch.Width

/-!
# Types with a JSON form

- `Coded`: a type whose values are written to JSON and read from it.
- `Record`: a structure in one of its two written forms, an object by field names or a list by
  field positions.
- `required`, `optional`, `defaulted`: the three kinds of field. In an object an optional field may
  be missing and a defaulted one too; in a list only defaulted fields at the end may be.
- `record?`: reads a structure; a list must be used up, an object may hold more.
- `word?`: a value of an enumeration, by its name.
-/

namespace CatalogSearch

universe u

/-- A type whose values are written to JSON and read from it. -/
class Coded (α : Type u) where
  toJson : α → Json
  /-- The value of a written form. -/
  ofJson? : Json → Option α

export Coded (toJson ofJson?)

/-! ## Plain values -/

instance : Coded Json := ⟨id, some⟩
instance : Coded String := ⟨.str, Json.asString?⟩
instance : Coded Bool := ⟨.bool, Json.asBool?⟩

/-- The whole number of a JSON number without point and exponent. -/
def Json.asInt? : Json → Option Int
  | .int i => some i
  | _ => none

instance : Coded Int64 := ⟨fun i => .int i.toInt, fun j => j.asInt?.bind Width.toInt64?⟩
instance : Coded UInt64 := ⟨fun n => .int n.toNat, fun j => j.asInt?.bind Width.toUInt64?⟩
instance : Coded UInt32 := ⟨fun n => .int n.toNat, fun j => j.asInt?.bind Width.toUInt32?⟩

/-- The double of any JSON number. -/
def Json.asFloat? : Json → Option Float
  | .float x => some x
  | .int i => some (.ofInt i)
  | _ => none

instance : Coded Float := ⟨.float, Json.asFloat?⟩

/-! ## Compound values -/

/-- The values of a list, if each can be read. -/
def readAll? {α β : Type u} (read : α → Option β) : List α → Option (List β)
  | [] => some []
  | x :: xs =>
    match read x with
    | none => none
    | some y => (readAll? read xs).map (y :: ·)

instance {α : Type} [Coded α] : Coded (List α) where
  toJson xs := .arr (xs.map toJson)
  ofJson?
    | .arr items => readAll? ofJson? items
    | _ => none

instance {α : Type} [Coded α] : Coded (Option α) where
  toJson
    | none => .null
    | some x => toJson x
  ofJson?
    | .null => some none
    | j => (ofJson? j).map some

instance {α β : Type} [Coded α] [Coded β] : Coded (α × β) where
  toJson p := .arr [toJson p.1, toJson p.2]
  ofJson?
    | .arr [a, b] => do return (← ofJson? a, ← ofJson? b)
    | _ => none

instance {α : Type} [Coded α] : Coded (KeyMap α) where
  toJson m := .obj (m.map toJson).entries
  ofJson?
    | .obj members =>
      (readAll? (fun m => (ofJson? m.2).map fun x => (m.1, x)) members).map KeyMap.ofList
    | _ => none

/-! ## Structures -/

/-- The written fields of a structure. -/
inductive Record where
  /-- By name. -/
  | named (members : List (String × Json))
  /-- By position. -/
  | listed (items : List Json)

/-- Reads field after field. -/
abbrev RecordReader := StateT Record Option

namespace Record

/-- A field by its name, or the next one by position; the latter is used up. -/
def next? (name : String) : Record → Option Json × Record
  | named members => (Json.member? name members, named members)
  | listed [] => (none, listed [])
  | listed (item :: items) => (some item, listed items)

/-- Nothing is left over: a list is used up, and an object may hold further members. -/
def finished : Record → Bool
  | named _ => true
  | listed items => items.isEmpty

end Record

/-- A field that must be there. -/
def required {α : Type} [Coded α] (name : String) : RecordReader α := fun r =>
  match r.next? name with
  | (some j, r) => (ofJson? j).map fun x => (x, r)
  | (none, _) => none

/-- A field that an object may leave out for nothing. -/
def optional {α : Type} [Coded α] (name : String) : RecordReader (Option α) := fun r =>
  match r, r.next? name with
  | .named _, (none, r) => some (none, r)
  | _, (some j, r) => (ofJson? j).map fun x => (x, r)
  | _, (none, _) => none

/-- A field with a value of its own when it is left out. -/
def defaulted {α : Type} [Coded α] (name : String) (otherwise : α) : RecordReader α := fun r =>
  match r.next? name with
  | (some j, r) => (ofJson? j).map fun x => (x, r)
  | (none, r) => some (otherwise, r)

/-- Reads a structure from either of its forms. -/
def record? {α : Type} (fields : RecordReader α) (j : Json) : Option α :=
  let form : Option Record := match j with
    | .obj members => some (.named members)
    | .arr items => some (.listed items)
    | _ => none
  match form.bind fields.run with
  | some (x, rest) => if rest.finished then some x else none
  | none => none

/-- The object of a structure: its fields by name, in the order of names. -/
def object (fields : List (String × Json)) : Json :=
  .obj (KeyMap.ofList fields).entries

/-! ## Enumerations -/

/-- Reads a word of an enumeration: the word, or an object whose only member is the word beside
`null`. -/
def word? {α : Type} (words : List (String × α)) : Json → Option α
  | .str s => KeyMap.lookup s words
  | .obj [(s, .null)] => KeyMap.lookup s words
  | _ => none

end CatalogSearch
