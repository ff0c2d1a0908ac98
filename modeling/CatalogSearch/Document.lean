import CatalogSearch.Json.Coded

/-!
# Documents

What the search engine stores: named fields in the order of their first mention, each with a list
of values.

- `Document.add`: one more value of a field.
- `Document.put`: new values for a field.
- `Document.values?`, `Document.first?`, `Document.names`: the views.
-/

namespace CatalogSearch

/-- An ordered list of fields with many values each. -/
structure Document where
  fields : List (String × List Json) := []
  deriving Inhabited

namespace Document

/-- The document without fields. -/
def empty : Document := {}

/-- Changes the values of the first field called `name`, or appends the field. -/
def update (name : String) (f : List Json → List Json) :
    List (String × List Json) → List (String × List Json)
  | [] => [(name, f [])]
  | (n, values) :: rest =>
    if n = name then (n, f values) :: rest else (n, values) :: update name f rest

/-- Gives a field one more value (`add_value`). -/
def add (d : Document) (name : String) (value : Json) : Document :=
  ⟨update name (· ++ [value]) d.fields⟩

/-- Gives a field these values, over any it had (`set_values`). -/
def put (d : Document) (name : String) (values : List Json) : Document :=
  ⟨update name (fun _ => values) d.fields⟩

/-- The names of the fields in order. -/
def names (d : Document) : List String :=
  d.fields.map (·.1)

/-- The values of the first field of a name. -/
def values? (d : Document) (name : String) : Option (List Json) :=
  KeyMap.lookup name d.fields

/-- The first value of a field. -/
def first? (d : Document) (name : String) : Option Json :=
  (d.values? name).bind List.head?

/-! ## The views of a write -/

theorem lookup_update_self (name : String) (f : List Json → List Json)
    (l : List (String × List Json)) :
    KeyMap.lookup name (update name f l) = some (f ((KeyMap.lookup name l).getD [])) := by
  induction l with
  | nil => simp [update, KeyMap.lookup]
  | cons e l ih =>
    unfold update
    split
    · next h => simp [KeyMap.lookup, h]
    · next h => simp [KeyMap.lookup, h, ih]

theorem lookup_update_of_ne {name other : String} (h : other ≠ name)
    (f : List Json → List Json) (l : List (String × List Json)) :
    KeyMap.lookup other (update name f l) = KeyMap.lookup other l := by
  induction l with
  | nil => simp [update, KeyMap.lookup, h.symm]
  | cons e l ih =>
    unfold update
    split
    · next he => simp [KeyMap.lookup, he, h.symm]
    · simp [KeyMap.lookup, ih]

/-- An added value comes after those that were there. -/
@[simp] theorem values?_add_self (d : Document) (name : String) (value : Json) :
    (d.add name value).values? name = some ((d.values? name).getD [] ++ [value]) :=
  lookup_update_self ..

/-- The values put into a field are its values. -/
@[simp] theorem values?_put_self (d : Document) (name : String) (values : List Json) :
    (d.put name values).values? name = some values :=
  lookup_update_self ..

end Document

instance : Coded Document where
  toJson d := object [("fields", toJson d.fields)]
  ofJson? := record? do return { fields := ← required "fields" }

end CatalogSearch
