import CatalogSearch.Filter.Clause
import CatalogSearch.Filter.Reading
import CatalogSearch.Request
import CatalogSearch.Schema.Suffixed

/-!
# Writing filters

A filter becomes a query text over the fields of a schema. On the way the identifiers it names and
the point it measures distance from are noted.

- `Findings`: what is noted.
- `ClauseWriter.reading`: the clause of every node, with the findings as state.
- `Filter.lookupReading`: whether a filter is nothing but identifiers joined by disjunctions.
- `Filter.write`: both together, for a list of sorts.
-/

namespace CatalogSearch

/-- What is noted beside the query text. -/
structure Findings where
  /-- The identifiers that records are compared with, in order. -/
  ids : List String := []
  /-- The point that distance is measured from. -/
  origin : Option Point := none
  deriving Inhabited

/-- Writing clauses; what was noted before a failure stays noted. -/
abbrev ClauseM := ExceptT Failure (StateM Findings)

/-- What clauses are written with: the fields, and whether the point of a distance is wanted
(`QueryStringDelegate`). -/
structure ClauseWriter where
  schema : Schema
  /-- A sort by distance was asked for. -/
  byDistance : Bool

namespace Test

/-- The format of the field that a test looks at. -/
def format : Test → Format
  | comparison _ value => value.format
  | spatial _ => .geometry
  | temporal _ => .date
  | text _ => .string

/-- The test is on words rather than on an exact value. -/
def isPhrase : Test → Bool
  | text _ => true
  | _ => false

/-- The hints for the field that a test looks at. -/
def options : Test → FieldOptions
  | text wanted => if wanted.caseSensitive then caseSensitiveOption else .empty
  | _ => .empty

/-- The field of a property that a test looks at. -/
def field? (schema : Schema) (property : String) (t : Test) : Option String :=
  schema.field? property t.format t.isPhrase t.options

/-- The clause of a test on a field. -/
def clause (field : String) : Test → Except Failure String
  | comparison op value => .ok (op.clause field value)
  | spatial op => .ok (op.clause field)
  | temporal op => op.clause field
  | text wanted => .ok (wanted.clause field)

/-- The identifier that a test on a property compares records with. -/
def id? (property : String) : Test → Option String
  | comparison .equal (.text s) => if property = Metacard.idAttribute then some s else none
  | _ => none

/-- The point from which a test measures distance. -/
def origin? : Test → Option Point
  | spatial op => op.origin?
  | _ => none

end Test

namespace ClauseWriter

/-- Notes what a test on a property adds: its identifier, and its point if one is wanted and none
was noted before. -/
def note (w : ClauseWriter) (property : String) (test : Test) (found : Findings) : Findings where
  ids := found.ids ++ (test.id? property).toList
  origin := if w.byDistance then found.origin.or test.origin? else found.origin

/-- The clause of a test on a property. Its field comes first, and nothing is noted for a test
without a clause. -/
def testClause (w : ClauseWriter) (property : String) (test : Test) : ClauseM String :=
  match test.field? w.schema property with
  | none => throw (.unsupportedQuery .search (.noField property))
  | some field =>
    match test.clause field with
    | .error failure => throw failure
    | .ok clause => do
      modify (w.note property test)
      return clause

/-- The clause of every node, from the clauses of its children. -/
def reading (w : ClauseWriter) : Reading ClauseM String
  | .all clauses => return Clause.conjunction clauses
  | .any clauses => return Clause.disjunction clauses
  | .not clause => return Clause.negation clause
  | .test property test => w.testClause property test

/-- The query text of a filter, or a failure, with what was noted. -/
def write (w : ClauseWriter) (f : Filter) : Except Failure String × Findings :=
  (Reading.read w.reading f).run {}

end ClauseWriter

namespace Filter

/-- Whether the records of a node can be looked up by identifier: those of an identifier test, and
those of a disjunction with children that all can. -/
def lookupReading : Reading (Except Failure) Bool
  | .all _ => .ok false
  | .any verdicts => .ok (!verdicts.isEmpty && verdicts.all id)
  | .not _ => .ok false
  | .test property wanted => .ok (wanted.id? property).isSome

/-- Whether the records of a filter can be looked up by identifier (`RealTimeGetDelegate`). -/
def isLookup (f : Filter) : Except Failure Bool :=
  Reading.read lookupReading f

end Filter

/-- A filter in the words of the engine (`AdaptedFilter`). -/
structure WrittenFilter where
  query : EngineQuery
  /-- The point that distance is measured from, if a sort by distance was asked for. -/
  origin : Option Point := none
  /-- The identifiers that the filter compares records with. -/
  ids : List String := []
  /-- The records can be looked up by these identifiers alone. -/
  isLookup : Bool := false
  deriving Inhabited

/-- A sort is by distance if it names the pseudo-property or any field with places
(`is_distance_sort`). -/
def SortBy.isByDistance (schema : Schema) (s : SortBy) : Bool :=
  s.property == SortBy.distance || (schema.storedFields s.property).any Suffix.isGeometry

/-- A way to put filters into the words of the engine, for a list of sorts (`FilterAdapter`). -/
abbrev FilterWriter := Filter → List SortBy → Except Failure WrittenFilter

/-- Puts filters into the words of the engine by the fields of a schema
(`StandardFilterAdapter`). -/
def Filter.write (schema : Schema) : FilterWriter := fun f sorts =>
  let writer : ClauseWriter := ⟨schema, sorts.any (·.isByDistance schema)⟩
  match writer.write f with
  | (.error failure, _) => .error failure
  | (.ok text, found) => do
    return {
      query := .ofText text
      origin := found.origin
      ids := found.ids
      isLookup := ← f.isLookup }

end CatalogSearch
