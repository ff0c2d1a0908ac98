import CatalogSearch.Calendar.Instant

/-!
# Filters

A filter is a boolean combination of tests on properties.

- `Test`: a comparison with a literal, a spatial test, a temporal test or a text test.
- `Filter`: tests joined by conjunction, disjunction and negation.
- `Filter.depth`: how many levels a filter has.
-/

namespace CatalogSearch

/-- How a property is compared with a literal (`ComparisonOp`). -/
inductive Comparison where
  | equal
  | notEqual
  | less
  | lessOrEqual
  | greater
  | greaterOrEqual
  deriving DecidableEq

/-- A value that a property is compared with. -/
inductive Literal where
  | text (s : String)
  | integer (i : Int64)
  | double (x : Float)
  | boolean (b : Bool)

/-- A place on the globe, in degrees. -/
structure Point where
  lat : Float
  lon : Float

/-- How a property lies relative to a shape in well-known text, or to a point (`SpatialOp`). -/
inductive Spatial where
  | intersects (wkt : String)
  | within (wkt : String)
  | contains (wkt : String)
  | disjoint (wkt : String)
  /-- Within a distance of the center. -/
  | pointRadius (center : Point) (meters : Float)
  /-- Any place, by distance from the center. -/
  | nearest (center : Point)

/-- The point from which a spatial test measures distance (`distance_origin`). -/
def Spatial.origin? : Spatial → Option Point
  | pointRadius center _ | nearest center => some center
  | _ => none

/-- How a property lies in time (`TemporalOp`). -/
inductive Temporal where
  | before (instant : Instant)
  | after (instant : Instant)
  /-- After the start and before the end. -/
  | during (start finish : Instant)

/-- How a property reads. -/
structure TextMatch where
  /-- The pattern, with the wildcards `*` and `?`. -/
  pattern : String
  caseSensitive : Bool := false
  fuzzy : Bool := false

/-- A test on one property. -/
inductive Test where
  | comparison (op : Comparison) (value : Literal)
  | spatial (op : Spatial)
  | temporal (op : Temporal)
  | text (wanted : TextMatch)

/-- A boolean combination of tests (`FilterExpr`). -/
inductive Filter where
  /-- Every child holds; without children it always does. -/
  | all (children : List Filter)
  /-- Some child holds; without children none does. -/
  | any (children : List Filter)
  /-- The child does not hold. -/
  | not (child : Filter)
  /-- The property passes the test. -/
  | test (property : String) (test : Test)

namespace Filter

instance : Inhabited Filter := ⟨all []⟩

/-- How many levels a filter has; a test has one. -/
def depth : Filter → Nat
  | all children => depths children + 1
  | any children => depths children + 1
  | not child => depth child + 1
  | test _ _ => 1
where
  /-- The depth of the deepest of several filters. -/
  depths : List Filter → Nat
    | [] => 0
    | f :: fs => max (depth f) (depths fs)

end Filter

end CatalogSearch
