import CatalogSearch.Sorting

/-!
# What requested sorts come to

A requested sort takes one of several routes through the schema, and an attribute may be stored
under several fields. Once its direction and the point to measure from are known, each route is a
criterion that the engine can order by, or none.

- `SortRoute`, `SortBy.routes`: what a sort reaches in the engine, told once for all kinds of sorts.
- `Criterion`, `SortBy.criteria`: what results are ordered by then.
- `SortBy.distanceKeys`, `SortBy.distances`: the routes and the criteria that are distances.
- `SortBy.distances_eq`: each distance is measured from the same point.
-/

namespace CatalogSearch

/-! ## Routes -/

/-- What a requested sort reaches in the engine. -/
inductive SortRoute where
  /-- The relevance of results. -/
  | relevance
  /-- What is stored under a key. -/
  | key (name : String)
  /-- The distance to what is stored under a key. -/
  | distance (target : String)

namespace SortRoute

/-- The route by a stored field: the distance if the field holds places, or else its key. The
engine cannot sort by binary values and by objects. -/
def ofField (schema : Schema) (field : String) : List SortRoute :=
  if Text.endsIn field "_geo" then [distance (schema.sortKey field)]
  else if Text.endsIn field "_bin" || Text.endsIn field "_obj" then []
  else [key (schema.sortKey field)]

/-- The key of a distance. -/
def distanceKey? : SortRoute → Option String
  | distance target => some target
  | _ => none

/-- A stored field has no other routes than its distance and its key. -/
theorem mem_ofField {schema : Schema} {field : String} {route : SortRoute}
    (h : route ∈ ofField schema field) :
    (Text.endsIn field "_geo" = true ∧ route = distance (schema.sortKey field)) ∨
      route = key (schema.sortKey field) := by
  unfold ofField at h
  split at h
  · next hplaces => exact .inl ⟨hplaces, List.mem_singleton.mp h⟩
  split at h
  · simp at h
  · exact .inr (List.mem_singleton.mp h)

end SortRoute

namespace SortBy

/-- The routes of a requested sort, in order. -/
def routes (schema : Schema) (s : SortBy) : List SortRoute :=
  if s.property = relevance then [.relevance]
  else if s.property = distance then
    [.distance (schema.sortKey (Metacard.locationAttribute ++ "_geo"))]
  else if s.property = temporal then
    (schema.field? Metacard.effectiveAttribute .date false .empty).toList.map
      fun field => .key (schema.sortKey field)
  else (schema.storedFields s.property).flatMap (SortRoute.ofField schema)

/-- The keys whose distance a sort orders by. -/
def distanceKeys (schema : Schema) (s : SortBy) : List String :=
  (s.routes schema).filterMap SortRoute.distanceKey?

variable {schema : Schema} {s : SortBy}

/-- Where a route of a sort comes from. -/
theorem mem_routes {route : SortRoute} (h : route ∈ s.routes schema) :
    (s.property = relevance ∧ route = .relevance) ∨
    (s.property = distance ∧
      route = .distance (schema.sortKey (Metacard.locationAttribute ++ "_geo"))) ∨
    (∃ field, schema.field? Metacard.effectiveAttribute .date false .empty = some field ∧
      route = .key (schema.sortKey field)) ∨
    ∃ field ∈ schema.storedFields s.property,
      (Text.endsIn field "_geo" = true ∧ route = .distance (schema.sortKey field)) ∨
        route = .key (schema.sortKey field) := by
  unfold routes at h
  by_cases hrelevance : s.property = relevance
  · rw [if_pos hrelevance] at h
    exact .inl ⟨hrelevance, List.mem_singleton.mp h⟩
  rw [if_neg hrelevance] at h
  by_cases hdistance : s.property = distance
  · rw [if_pos hdistance] at h
    exact .inr (.inl ⟨hdistance, List.mem_singleton.mp h⟩)
  rw [if_neg hdistance] at h
  by_cases htemporal : s.property = temporal
  · rw [if_pos htemporal] at h
    obtain ⟨field, hfield, rfl⟩ := List.mem_map.mp h
    exact .inr (.inr (.inl ⟨field, Option.mem_toList.mp hfield, rfl⟩))
  · rw [if_neg htemporal] at h
    obtain ⟨field, hfield, hroute⟩ := List.mem_flatMap.mp h
    exact .inr (.inr (.inr ⟨field, hfield, SortRoute.mem_ofField hroute⟩))

end SortBy

/-! ## Criteria -/

/-- A distance that results are ordered by. -/
structure Distance where
  /-- The key of the field that it is measured to. -/
  key : String
  /-- The point that it is measured from. -/
  origin : Point
  order : Order

/-- One thing to order results by. -/
inductive Criterion where
  /-- The relevance of a result. -/
  | relevance (order : Order)
  /-- What is stored under a key. -/
  | key (name : String) (order : Order)
  /-- The distance between two places. -/
  | distance (d : Distance)

/-- The distance of a result, under the name of its pseudo-field. -/
def distanceRequest : String := distanceField ++ ":" ++ distanceFunction

/-- The clause of a distance. It names neither end: these are parameters of the query. -/
def Distance.clause (d : Distance) : EngineSort := ⟨distanceFunction, d.order⟩

namespace Criterion

/-- The clause of a criterion. -/
def clause : Criterion → EngineSort
  | relevance order => ⟨scoreField, order⟩
  | key name order => ⟨name, order⟩
  | distance d => d.clause

/-- The distance of a criterion, if it is one by distance. -/
def distance? : Criterion → Option Distance
  | distance d => some d
  | _ => none

/-- The fields that a criterion asks for, if it is by a value that is computed for a result. -/
def requested? : Criterion → Option (List String)
  | relevance _ => some [allFields, scoreField]
  | key _ _ => none
  | distance _ => some [allFields, distanceRequest]

end Criterion

/-- What a route comes to in a direction: a distance needs a point to measure from. -/
def SortRoute.criteria (origin : Option Point) (order : Order) : SortRoute → List Criterion
  | relevance => [.relevance order]
  | key name => [.key name order]
  | distance target => origin.toList.map fun point => .distance ⟨target, point, order⟩

namespace SortBy

/-- What a requested sort comes to. -/
def criteria (schema : Schema) (origin : Option Point) (s : SortBy) : List Criterion :=
  (s.routes schema).flatMap (SortRoute.criteria origin s.order.order)

/-- The distances that a sort orders by, if there is a point to measure from. -/
def distances (schema : Schema) (origin : Option Point) (s : SortBy) : List Distance :=
  (s.criteria schema origin).filterMap Criterion.distance?

variable {schema : Schema} {origin : Option Point} {s : SortBy}

/-- Where a criterion of a sort comes from: it is the relevance, a distance, or the key of a field
that the schema knows or stores. -/
theorem mem_criteria {c : Criterion} (h : c ∈ s.criteria schema origin) :
    (s.property = relevance ∧ c = .relevance s.order.order) ∨
    (∃ d, c = .distance d) ∨
    ∃ field, (schema.field? Metacard.effectiveAttribute .date false .empty = some field ∨
        field ∈ schema.storedFields s.property) ∧
      c = .key (schema.sortKey field) s.order.order := by
  obtain ⟨route, hroute, hmem⟩ := List.mem_flatMap.mp h
  have hdistance : ∀ target, c ∈ (SortRoute.distance target).criteria origin s.order.order →
      ∃ d, c = .distance d := by
    intro target hc
    obtain ⟨point, -, rfl⟩ := List.mem_map.mp hc
    exact ⟨_, rfl⟩
  rcases mem_routes hroute with ⟨hrelevance, rfl⟩ | ⟨-, rfl⟩ | ⟨field, hfield, rfl⟩ |
    ⟨field, hfield, ⟨-, rfl⟩ | rfl⟩
  · exact .inl ⟨hrelevance, List.mem_singleton.mp hmem⟩
  · exact .inr (.inl (hdistance _ hmem))
  · exact .inr (.inr ⟨field, .inl hfield, List.mem_singleton.mp hmem⟩)
  · exact .inr (.inl (hdistance _ hmem))
  · exact .inr (.inr ⟨field, .inr hfield, List.mem_singleton.mp hmem⟩)

/-- Only a sort by relevance orders by it. -/
theorem relevance_mem_criteria {order : Order} (h : .relevance order ∈ s.criteria schema origin) :
    s.property = relevance := by
  rcases mem_criteria h with ⟨hproperty, -⟩ | ⟨d, ⟨⟩⟩ | ⟨field, -, ⟨⟩⟩
  exact hproperty

theorem criteria_of_relevance (h : s.property = relevance) :
    s.criteria schema origin = [.relevance s.order.order] := by
  rw [criteria, routes, if_pos h]
  rfl

/-- A key stands for a field that the schema knows or stores. -/
theorem key_mem_criteria {name : String} {order : Order}
    (h : .key name order ∈ s.criteria schema origin) :
    ∃ field, (schema.field? Metacard.effectiveAttribute .date false .empty = some field ∨
      field ∈ schema.storedFields s.property) ∧ name = schema.sortKey field := by
  rcases mem_criteria h with ⟨-, ⟨⟩⟩ | ⟨d, ⟨⟩⟩ | ⟨field, hfield, ⟨⟩⟩
  exact ⟨field, hfield, rfl⟩

theorem mem_distances_iff {d : Distance} :
    d ∈ s.distances schema origin ↔ .distance d ∈ s.criteria schema origin := by
  unfold distances
  rw [List.mem_filterMap]
  constructor
  · rintro ⟨c, hc, hd⟩
    cases c with
    | distance d' => exact Option.some.inj hd ▸ hc
    | relevance order => cases hd
    | key name order => cases hd
  · exact fun h => ⟨_, h, rfl⟩

/-- The distances of a sort are measured to its keys, all from one point and in its direction. -/
theorem distances_eq (schema : Schema) (origin : Option Point) (s : SortBy) :
    s.distances schema origin = (s.distanceKeys schema).flatMap fun key =>
      origin.toList.map fun point => ⟨key, point, s.order.order⟩ := by
  unfold distances criteria distanceKeys
  induction s.routes schema with
  | nil => rfl
  | cons route routes ih =>
    rw [List.flatMap_cons, List.filterMap_append, ih, List.filterMap_cons]
    cases route with
    | relevance => rfl
    | key name => rfl
    | distance target => cases origin <;> rfl

theorem distances_none (s : SortBy) : s.distances schema none = [] := by
  rw [distances_eq]
  exact List.flatMap_eq_nil_iff.mpr fun _ _ => rfl

theorem distances_some (s : SortBy) (point : Point) :
    s.distances schema (some point) =
      (s.distanceKeys schema).map fun key => ⟨key, point, s.order.order⟩ := by
  rw [distances_eq]
  exact List.map_eq_flatMap.symm

end SortBy

end CatalogSearch
