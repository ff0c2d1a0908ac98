import CatalogSearch.Json.Basic
import CatalogSearch.KeyMap

/-!
# Values of TOML

A number is looked at only when its value is asked for, so a file may hold numbers without one as
long as nobody asks.

- `Value`: what stands beside a key.
- `Value.take`: a list cut to its first items.
- `Value.toJson?`: the value in full, if every number within has one.
-/

namespace CatalogSearch

namespace Toml

/-- What stands beside a key. -/
inductive Value where
  /-- A text, a truth value, a date, or a number. -/
  | plain (v : Json)
  /-- A number without a value: too large, or with characters that are no digits. -/
  | unreadable
  /-- A list of values. -/
  | list (items : List Value)
  /-- Values by key. -/
  | table (entries : List (String × Value))
  deriving Inhabited

namespace Value

/-- The first items of a list; any other value as it is. -/
def take (count : Nat) : Value → Value
  | list items => list (items.take count)
  | v => v

mutual

/-- The value in full, if every number within has a value. -/
def toJson? : Value → Option Json
  | plain v => some v
  | unreadable => none
  | list items => (itemsToJson? items).map .arr
  | table entries => (entriesToJson? entries).map fun members => .obj (KeyMap.ofList members).entries

/-- The items of a list in full. -/
def itemsToJson? : List Value → Option (List Json)
  | [] => some []
  | v :: vs => do return (← v.toJson?) :: (← itemsToJson? vs)

/-- The entries of a table in full. -/
def entriesToJson? : List (String × Value) → Option (List (String × Json))
  | [] => some []
  | (key, v) :: rest => do return (key, ← v.toJson?) :: (← entriesToJson? rest)

end

end Value

end Toml

end CatalogSearch
