/-!
# Identifiers in batches

- `distinct`: each identifier once, at its first place.
- `batches`: a list cut into pieces of a length; the last may be shorter.
- `anyIdentifier`: the query text for the records whose field has one of the identifiers.
-/

namespace CatalogSearch

/-- Keeps the first of equal texts; those in `seen` are left out too. -/
def distinctFrom (seen : List String) : List String → List String
  | [] => []
  | id :: ids => if id ∈ seen then distinctFrom seen ids else id :: distinctFrom (id :: seen) ids

/-- Each identifier once, at its first place (`distinct_ids`). -/
def distinct (ids : List String) : List String :=
  distinctFrom [] ids

/-- Cuts off `size` elements again and again, at most `fuel` times. -/
def batchesFrom {α : Type} (size : Nat) : Nat → List α → List (List α)
  | 0, _ => []
  | fuel + 1, xs => if xs.isEmpty then [] else xs.take size :: batchesFrom size fuel (xs.drop size)

/-- The consecutive pieces of a list, each of `size` elements but for the last. -/
def batches {α : Type} (size : Nat) (xs : List α) : List (List α) :=
  batchesFrom size xs.length xs

/-- The query text for the records whose field has one of the identifiers (`identifier_query`). -/
def anyIdentifier (field : String) (ids : List String) : String :=
  String.intercalate " OR " (ids.map fun id => field ++ ":\"" ++ id ++ "\"")

end CatalogSearch
