import CatalogSearch.Filter.Written

/-!
# Sorting

Requested sorts become sorts of the engine's query, in order.

- `EngineQuery.sortByDistance`: a sort by distance needs the point it is measured from.
- `EngineQuery.sortByField`: a stored field sorts by its key, if the engine can sort by it.
- `EngineQuery.sortBy`, `EngineQuery.sortAll`: one requested sort, and all of them.
- `lastSortKey`: the key of the last requested property.
-/

namespace CatalogSearch

/-- The engine's direction for a requested one (`order_of`). -/
def SortOrder.order : SortOrder → Order
  | ascending => .asc
  | descending => .desc

namespace EngineQuery

/-- Sorts by the distance of the field behind `key` from the origin, and asks for the distance with
every field; without an origin nothing changes (`add_distance_sort`). -/
def sortByDistance (q : EngineQuery) (key : String) (order : Order) :
    Option Point → EngineQuery
  | none => q
  | some origin =>
    (((q.pushSort distanceFunction order).withFields
      [allFields, distanceField ++ ":" ++ distanceFunction]).pushParam
        distanceFieldParam key).pushParam distancePointParam origin.param

/-- Sorts by a stored field: by distance if it holds places, by its key if it can be sorted by
(`apply_attribute_sort`). -/
def sortByField (schema : Schema) (origin : Option Point) (order : Order) (q : EngineQuery)
    (field : String) : EngineQuery :=
  if Suffix.isGeometry field then q.sortByDistance (schema.sortKey field) order origin
  else if Suffix.canSort field then q.pushSort (schema.sortKey field) order
  else q

/-- Applies one requested sort. -/
def sortBy (schema : Schema) (origin : Option Point) (q : EngineQuery) (s : SortBy) :
    EngineQuery :=
  let order := s.order.order
  if s.property = SortBy.relevance then
    (q.withFields [allFields, scoreField]).pushSort scoreField order
  else if s.property = SortBy.distance then
    q.sortByDistance (schema.sortKey (Metacard.locationAttribute ++ Suffix.geometry)) order origin
  else if s.property = SortBy.temporal then
    match schema.field? Metacard.effectiveAttribute .date false .empty with
    | some field => q.pushSort (schema.sortKey field) order
    | none => q
  else (schema.storedFields s.property).foldl (sortByField schema origin order) q

/-- Applies the requested sorts in order (`apply_sort`). -/
def sortAll (schema : Schema) (origin : Option Point) (q : EngineQuery) (sorts : List SortBy) :
    EngineQuery :=
  sorts.foldl (sortBy schema origin) q

/-- Two lists of sorts apply one after the other. -/
theorem sortAll_append (schema : Schema) (origin : Option Point) (q : EngineQuery)
    (first second : List SortBy) :
    q.sortAll schema origin (first ++ second) =
      (q.sortAll schema origin first).sortAll schema origin second :=
  List.foldl_append

end EngineQuery

/-- What the last requested property sorts by, as `apply_sort` tells; nothing was requested if it is
empty. -/
def lastSortKey (schema : Schema) (sorts : List SortBy) : String :=
  (sorts.getLast?.map fun s => schema.sortKey s.property).getD ""

end CatalogSearch
