import CatalogSearch.Toml.Value

/-!
# Tables of TOML

How the tables of a file grow line by line. A table may be defined only once, and each way of
bringing one about leaves other ways open to extend it.

- `Origin`, `Node`, `Table`: tables that may still grow, and values that may not.
- `descend?`: walks a path of keys, bringing about the tables that are missing.
- `Table.put?`: a value under a path of keys.
- `Table.define?`, `Table.append?`: the headers of a table and of one more table of a list.
- `Table.toValue`: the finished tables.
-/

namespace CatalogSearch

namespace Toml

/-- How a table came about. -/
inductive Origin where
  /-- By its own header. -/
  | header
  /-- By being on the path of a header. -/
  | path
  /-- By being on the path of the key of a value. -/
  | key
  deriving DecidableEq

/-- What stands under a key. -/
inductive Node where
  /-- A value, which does not grow. -/
  | value (v : Value)
  /-- A table. -/
  | table (origin : Origin) (entries : List (String × Node))
  /-- A list of tables, of which the last may grow. -/
  | tables (before : List (List (String × Node))) (last : List (String × Node))

/-- A table with its origin. -/
structure Table where
  origin : Origin
  entries : List (String × Node)

/-- The table of a whole file, or of a pair of braces, before its first entry. -/
def Table.empty : Table := ⟨.header, []⟩

/-- Puts a node under a key, over any that is there. -/
def setEntry (key : String) (n : Node) : List (String × Node) → List (String × Node)
  | [] => [(key, n)]
  | (k, m) :: rest => if k = key then (key, n) :: rest else (k, m) :: setEntry key n rest

/-- Walks a path of keys and changes the table at its end. The key of a value passes no table that
has a header of its own, and every table it passes counts as its own from then on; a header passes
all tables. Both pass lists of tables at their last. -/
def descend? (ofKey : Bool) (change : Table → Option Table) : List String → Table → Option Table
  | [], t => change t
  | key :: keys, t =>
    match KeyMap.lookup key t.entries with
    | none =>
      (descend? ofKey change keys ⟨if ofKey then .key else .path, []⟩).map fun inner =>
        { t with entries := setEntry key (.table inner.origin inner.entries) t.entries }
    | some (.table origin entries) =>
      if ofKey && origin = .header then none
      else (descend? ofKey change keys ⟨if ofKey then .key else origin, entries⟩).map fun inner =>
        { t with entries := setEntry key (.table inner.origin inner.entries) t.entries }
    | some (.tables before last) =>
      (descend? ofKey change keys ⟨.header, last⟩).map fun inner =>
        { t with entries := setEntry key (.tables before inner.entries) t.entries }
    | some (.value _) => none

namespace Table

/-- Puts a new entry into a table. Under a path of keys the table must have come about by such a
path, and otherwise it must not. -/
def enter? (nested : Bool) (key : String) (n : Node) (t : Table) : Option Table :=
  if (t.origin = .key) = nested ∧ (KeyMap.lookup key t.entries).isNone then
    some { t with entries := setEntry key n t.entries }
  else none

/-- Puts a value under a path of keys. -/
def put? (keys : List String) (last : String) (v : Value) (t : Table) : Option Table :=
  descend? true (enter? (!keys.isEmpty) last (.value v)) keys t

/-- Defines the table of a header, which may have come about before on the path of another. -/
def define? (keys : List String) (last : String) (t : Table) : Option Table :=
  descend? false (fun parent =>
    match KeyMap.lookup last parent.entries with
    | none => some { parent with entries := setEntry last (.table .header []) parent.entries }
    | some (.table .path entries) =>
      some { parent with entries := setEntry last (.table .header entries) parent.entries }
    | some _ => none) keys t

/-- Adds one more table to the list of a header. -/
def append? (keys : List String) (last : String) (t : Table) : Option Table :=
  descend? false (fun parent =>
    match KeyMap.lookup last parent.entries with
    | none => some { parent with entries := setEntry last (.tables [] []) parent.entries }
    | some (.tables before inner) =>
      some { parent with entries := setEntry last (.tables (before ++ [inner]) []) parent.entries }
    | some _ => none) keys t

end Table

/-! ## Finished tables -/

mutual

/-- The value under a key. -/
def Node.toValue : Node → Value
  | .value v => v
  | .table _ entries => .table (entriesToValues entries)
  | .tables before last => .list (tablesToValues before ++ [.table (entriesToValues last)])

/-- The entries of a table. -/
def entriesToValues : List (String × Node) → List (String × Value)
  | [] => []
  | (key, n) :: rest => (key, n.toValue) :: entriesToValues rest

/-- The tables of a list. -/
def tablesToValues : List (List (String × Node)) → List Value
  | [] => []
  | entries :: rest => .table (entriesToValues entries) :: tablesToValues rest

end

/-- The finished table. -/
def Table.toValue (t : Table) : Value :=
  .table (entriesToValues t.entries)

end Toml

end CatalogSearch
