import CatalogSearch.Json.Basic
import CatalogSearch.Decimal.Notation

/-!
# JSON text of a value

- `Json.quoted`: a string with its quotes; control characters are escaped, all others stand as
  they are.
- `Json.compact`: a value without any spaces.
- `Json.display`: a value as plain text, where a string stands for itself.
-/

namespace CatalogSearch

namespace Json

/-- A digit of base sixteen in lower case. -/
def hexDigit (n : Nat) : Char :=
  Nat.digitChar (n % 16)

/-- A character between the quotes of a JSON string. -/
def quotedChar (c : Char) : List Char :=
  if c = '"' ∨ c = '\\' then ['\\', c]
  else if c = '\n' then ['\\', 'n']
  else if c = '\r' then ['\\', 'r']
  else if c = '\t' then ['\\', 't']
  else if c = '\x08' then ['\\', 'b']
  else if c = '\x0c' then ['\\', 'f']
  else if c.toNat < 0x20 then ['\\', 'u', '0', '0', hexDigit (c.toNat / 16), hexDigit c.toNat]
  else [c]

/-- A JSON string. -/
def quoted (s : String) : String :=
  "\"" ++ String.ofList (s.toList.flatMap quotedChar) ++ "\""

/-- The texts one after the other, with commas between them. -/
def commaSeparated (texts : List String) : String :=
  String.intercalate "," texts

mutual

/-- The JSON text of a value, without spaces. -/
def compact : Json → String
  | null => "null"
  | bool b => if b then "true" else "false"
  | int i => intText i
  | float x => (Binary64.ofFloat x).jsonText
  | str s => quoted s
  | arr items => "[" ++ commaSeparated (compactItems items) ++ "]"
  | obj members => "\x7b" ++ commaSeparated (compactMembers members) ++ "\x7d"

/-- The texts of the values of a list. -/
def compactItems : List Json → List String
  | [] => []
  | item :: items => compact item :: compactItems items

/-- The texts of the members of an object. -/
def compactMembers : List (String × Json) → List String
  | [] => []
  | (name, value) :: members => (quoted name ++ ":" ++ compact value) :: compactMembers members

end

/-- A value as plain text: a string is itself, any other value its JSON text. -/
def display : Json → String
  | str s => s
  | value => compact value

end Json

end CatalogSearch
