import CatalogSearch.Engine.Query
import CatalogSearch.Failure
import CatalogSearch.Filter.Basic
import CatalogSearch.Metacard
import CatalogSearch.Text.Pattern

/-!
# Clauses of query texts

How the nodes of a filter are written in the query language of the engine.

- `Clause.conjunction`, `Clause.disjunction`, `Clause.negation`: clauses made of clauses.
- `Literal.term`, `Literal.format`: a literal as an operand.
- `Comparison.clause`, `Spatial.clause`, `Temporal.clause`, `TextMatch.clause`: the clause of a
  test on a field.
-/

namespace CatalogSearch

namespace Clause

/-- A single clause stands by itself; several are grouped by a word between them
(`join_clauses`). -/
def group (word empty : String) : List String → String
  | [] => empty
  | [clause] => clause
  | clauses => "(" ++ String.intercalate (" " ++ word ++ " ") clauses ++ ")"

/-- All clauses hold. -/
def conjunction (clauses : List String) : String :=
  group "AND" matchAll clauses

/-- Some clause holds. -/
def disjunction (clauses : List String) : String :=
  group "OR" matchNone clauses

/-- The clause does not hold: all records but those it matches (`negate`). -/
def negation (clause : String) : String :=
  "(" ++ matchAll ++ " -" ++ clause ++ ")"

/-- A field has a value. -/
def onField (field term : String) : String :=
  field ++ ":" ++ term

/-- The values from `low` to `high`, where `*` is no bound. -/
def range (opening low high closing : String) : String :=
  opening ++ low ++ " TO " ++ high ++ closing

/-- The bracket that leaves out the lower bound. -/
def openAbove : String := "\x7b"

/-- The bracket that leaves out the upper bound. -/
def openBelow : String := "\x7d"

/-- No bound. -/
def unbounded : String := "*"

end Clause

/-! ## Comparisons -/

/-- The format of the field that a literal is compared with (`literal_format`). -/
def Literal.format : Literal → Format
  | text _ => .string
  | integer _ => .long
  | double _ => .double
  | boolean _ => .boolean

/-- A literal as an operand (`literal_term`). -/
def Literal.term : Literal → String
  | text s => Text.quote s
  | integer i => intText i.toInt
  | double x => plainText x
  | boolean b => if b then "true" else "false"

/-- The clause of a comparison. -/
def Comparison.clause (field : String) (value : Literal) : Comparison → String
  | equal => Clause.onField field value.term
  | notEqual => Clause.negation (Clause.onField field value.term)
  | less => Clause.onField field
      (Clause.range Clause.openAbove Clause.unbounded value.term Clause.openBelow)
  | lessOrEqual => Clause.onField field (Clause.range "[" Clause.unbounded value.term "]")
  | greater => Clause.onField field
      (Clause.range Clause.openAbove value.term Clause.unbounded Clause.openBelow)
  | greaterOrEqual => Clause.onField field (Clause.range "[" value.term Clause.unbounded "]")

/-! ## Space -/

/-- A point as an operand: latitude and longitude with a comma between them (`point_param`). -/
def Point.param (p : Point) : String :=
  plainText p.lat ++ "," ++ plainText p.lon

/-- The meters of a kilometer. -/
def metersPerKilometer : Float := 1000

/-- A shape in a relation, as a quoted operand. -/
def Spatial.relation (name wkt : String) : String :=
  "\"" ++ name ++ "(" ++ Text.escape wkt ++ ")\""

/-- The clause of a spatial test. A circle is a filter of its own, with its radius in kilometers;
the nearest places are all places. -/
def Spatial.clause (field : String) : Spatial → String
  | intersects wkt => Clause.onField field (relation "Intersects" wkt)
  | within wkt => Clause.onField field (relation "IsWithin" wkt)
  | contains wkt => Clause.onField field (relation "Contains" wkt)
  | disjoint wkt => Clause.onField field (relation "IsDisjointTo" wkt)
  | pointRadius center meters =>
    "\x7b!geofilt sfield=" ++ field ++ " pt=" ++ center.param ++ " d=" ++
      plainText (meters / metersPerKilometer) ++ "\x7d"
  | nearest _ => Clause.onField field (Clause.range "[" Clause.unbounded Clause.unbounded "]")

/-! ## Time -/

/-- An instant as an operand (`format_instant`). -/
def Instant.term (i : Instant) : Except Failure String :=
  match i.utcText with
  | .ok text => .ok text
  | .error .unwritableYear => .error (.invalidRequest .instantYear)
  | .error .beyondCalendar => .error (.defect .beyondCalendar)

/-- The clause of a temporal test; every named bound is left out. -/
def Temporal.clause (field : String) : Temporal → Except Failure String
  | before instant => do
    return Clause.onField field
      (Clause.range "[" Clause.unbounded (← instant.term) Clause.openBelow)
  | after instant => do
    return Clause.onField field
      (Clause.range Clause.openAbove (← instant.term) Clause.unbounded "]")
  | during start finish => do
    let low ← start.term
    let high ← finish.term
    return Clause.onField field (Clause.range Clause.openAbove low high Clause.openBelow)

/-! ## Text -/

/-- The clause of a text test; a tilde asks for similar words. -/
def TextMatch.clause (field : String) (t : TextMatch) : String :=
  Clause.onField field (Text.term t.pattern) ++ (if t.fuzzy then "~" else "")

end CatalogSearch
