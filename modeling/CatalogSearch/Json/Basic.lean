/-!
# JSON values

The free values that documents, attributes and response headers carry.

- `Json`: whole numbers are kept apart from doubles, so that each is written back as it was read.
- `Json.field?`: a member of an object by name.
- `Json.asString?`, `Json.asBool?`: a value of one kind.
- `Json.depth`: how many levels a value has.
-/

namespace CatalogSearch

/-- A JSON value. The members of an object stand in increasing order of their names, each name
once, as the reader and the encoders leave them. -/
inductive Json where
  /-- The value `null`. -/
  | null
  /-- A truth value. -/
  | bool (b : Bool)
  /-- A number written without point and exponent. -/
  | int (i : Int)
  /-- Any other number. -/
  | float (x : Float)
  /-- A text. -/
  | str (s : String)
  /-- A list of values. -/
  | arr (items : List Json)
  /-- Values by name. -/
  | obj (members : List (String × Json))
  deriving Inhabited

namespace Json

/-- The text of a string value. -/
def asString? : Json → Option String
  | str s => some s
  | _ => none

/-- The truth value of a boolean. -/
def asBool? : Json → Option Bool
  | bool b => some b
  | _ => none

/-- The first value beside `name` in the members of an object. -/
def member? (name : String) (members : List (String × Json)) : Option Json :=
  (members.find? fun m => m.1 = name).map (·.2)

/-- The member of an object with this name. -/
def field? (name : String) : Json → Option Json
  | obj members => member? name members
  | _ => none

/-- How many levels a value has; one that holds no others has one. -/
def depth : Json → Nat
  | arr items => itemsDepth items + 1
  | obj members => membersDepth members + 1
  | _ => 1
where
  /-- The depth of the deepest of several values. -/
  itemsDepth : List Json → Nat
    | [] => 0
    | j :: js => max (depth j) (itemsDepth js)
  /-- The depth of the deepest of several members. -/
  membersDepth : List (String × Json) → Nat
    | [] => 0
    | (_, j) :: ms => max (depth j) (membersDepth ms)

end Json

end CatalogSearch
