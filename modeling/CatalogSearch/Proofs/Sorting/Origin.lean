import CatalogSearch.Proofs.Schema.Naming
import CatalogSearch.Proofs.Service.Planning
import CatalogSearch.Proofs.Sorting.Criteria

/-!
# The point that results are sorted from

A sort by distance measures from a point that the filter names. Whether the point is noted is
decided by the sorts before the filter is written, and whether it is used by each sort on its own
afterwards. Both decisions agree: a point that some sort uses was noted.

- `Filter.origins`: the points that a filter names, from left to right.
- `Filter.distances_of_write`: the distances of a sort are those from the first of these points.
- `Schema.KeepsDistance`: no stored field is sorted by the name of the distance function.
- `Service.Measures`: the clauses by distance of a planned query, with the ends of each.
- `Service.plan_measures`: they are those of the sorts if the filter names a point, or none.
-/

namespace CatalogSearch

namespace Filter

/-! ## The points of a filter -/

/-- The centers of the circles and of the searches for the nearest places, wherever they stand,
from left to right. -/
def origins : Filter → List Point
  | all children => originsOf children
  | any children => originsOf children
  | not child => origins child
  | test _ (.spatial (.pointRadius center _)) => [center]
  | test _ (.spatial (.nearest center)) => [center]
  | test _ _ => []
where
  /-- The points of several filters. -/
  originsOf : List Filter → List Point
    | [] => []
    | f :: fs => origins f ++ originsOf fs

theorem toList_origin? (property : String) (wanted : Test) :
    wanted.origin?.toList = origins (.test property wanted) := by
  cases wanted with
  | spatial op => cases op <;> rfl
  | comparison _ _ => rfl
  | temporal _ => rfl
  | text _ => rfl

mutual

/-- The tests of a filter name its points. -/
theorem flatMap_origin?_tests :
    ∀ f : Filter, f.tests.flatMap (fun e => e.2.origin?.toList) = f.origins
  | .all children => flatMap_origin?_testsOf children
  | .any children => flatMap_origin?_testsOf children
  | .not child => flatMap_origin?_tests child
  | .test property wanted => by
    rw [← toList_origin? property wanted]
    exact List.flatMap_singleton _ _

theorem flatMap_origin?_testsOf :
    ∀ fs : List Filter, (tests.testsOf fs).flatMap (fun e => e.2.origin?.toList) =
      origins.originsOf fs
  | [] => rfl
  | f :: fs => by
    rw [tests.testsOf, List.flatMap_append, flatMap_origin?_tests f, flatMap_origin?_testsOf fs]
    rfl

end

/-! ## The point that is noted -/

/-- The first point that is named stays noted, if one is wanted. -/
theorem origin_noteAll (w : ClauseWriter) (tests : List (String × Test)) (found : Findings) :
    (w.noteAll tests found).origin =
      if w.byDistance then found.origin.or (tests.flatMap fun e => e.2.origin?.toList).head?
      else found.origin := by
  induction tests generalizing found with
  | nil =>
    show found.origin = if w.byDistance then found.origin.or none else found.origin
    rw [Option.or_none, ite_self]
  | cons e tests ih =>
    show (w.noteAll tests (w.note e.1 e.2 found)).origin = _
    rw [ih, List.flatMap_cons, List.head?_append, Option.head?_toList, ← Option.or_assoc]
    show (if w.byDistance then Option.or (if w.byDistance then _ else _) _
      else if w.byDistance then _ else _) = _
    split <;> rfl

/-- A written filter has noted its first point, if some sort is by distance. -/
theorem origin_of_write {schema : Schema} {f : Filter} {sorts : List SortBy}
    {written : WrittenFilter} (h : f.write schema sorts = .ok written) :
    written.origin =
      if sorts.any (·.isByDistance schema) then f.origins.head? else none := by
  obtain ⟨text, found, verdict, hwrite, -, rfl⟩ := write_eq_ok_iff.mp h
  obtain ⟨-, -, rfl⟩ := ClauseWriter.write_eq_ok_iff.mp hwrite
  show (ClauseWriter.noteAll _ f.tests {}).origin = _
  rw [origin_noteAll, flatMap_origin?_tests]
  rfl

end Filter

/-- A sort that orders by some distance counts as one by distance. -/
theorem SortBy.isByDistance_of_distanceKeys {schema : Schema} {s : SortBy}
    (h : s.distanceKeys schema ≠ []) : s.isByDistance schema = true := by
  obtain ⟨key, hkey⟩ := List.exists_mem_of_ne_nil _ h
  obtain ⟨route, hroute, htarget⟩ := List.mem_filterMap.mp hkey
  unfold isByDistance
  rw [Bool.or_eq_true, beq_iff_eq, List.any_eq_true]
  rcases mem_routes hroute with ⟨-, rfl⟩ | ⟨hdistance, -⟩ | ⟨field, -, rfl⟩ |
    ⟨field, hfield, ⟨hplaces, -⟩ | rfl⟩
  · cases htarget
  · exact .inl hdistance
  · cases htarget
  · exact .inr ⟨field, hfield, hplaces⟩
  · cases htarget

/-- The distances of a sort are measured from the first point that the filter names: that it was
noted only if wanted takes none away. -/
theorem Filter.distances_of_write {schema : Schema} {f : Filter} {sorts : List SortBy}
    {written : WrittenFilter} (h : f.write schema sorts = .ok written) {s : SortBy}
    (hs : s ∈ sorts) :
    s.distances schema written.origin = s.distances schema f.origins.head? := by
  by_cases hkeys : s.distanceKeys schema = []
  · rw [SortBy.distances_eq, SortBy.distances_eq, hkeys]
    rfl
  · have hany : sorts.any (·.isByDistance schema) = true :=
      List.any_eq_true.mpr ⟨s, hs, SortBy.isByDistance_of_distanceKeys hkeys⟩
    rw [origin_of_write h, if_pos hany]

/-! ## Clauses by distance -/

/-- What stored fields are sorted by is never the distance function. -/
structure Schema.KeepsDistance (schema : Schema) : Prop where
  stored : ∀ property, ∀ field ∈ schema.storedFields property,
    schema.sortKey field ≠ distanceFunction
  effective : ∀ field, schema.field? Metacard.effectiveAttribute .date false .empty = some field →
    schema.sortKey field ≠ distanceFunction

/-- A field of the suffix schema and its copy for sorting both hold a mark, which the distance
function does not. -/
theorem SuffixSchema.keepsDistance (s : SuffixSchema) : s.schema.KeepsDistance := by
  have hmark : ∀ name field, s.typedField? name = some field →
      sortKey field ≠ distanceFunction := by
    intro name field hfield heq
    obtain ⟨format, -, rfl⟩ := Option.map_eq_some_iff.mp hfield
    have hmarked := mark_mem_append name format
    have hmem : Suffix.mark ∈ (sortKey (name ++ Suffix.of format)).toList := by
      unfold sortKey
      split
      · rw [String.toList_append]
        exact List.mem_append_left _ hmarked
      · exact hmarked
    rw [heq] at hmem
    exact absurd hmem (by decide)
  constructor
  · intro property field hfield
    exact hmark property field (Option.mem_toList.mp hfield)
  · intro field hfield
    exact hmark _ field hfield

/-- The sort is by the distance function. -/
def EngineSort.isDistance (c : EngineSort) : Bool := c.field = distanceFunction

theorem EngineSort.not_isDistance {c : EngineSort} (h : c.field ≠ distanceFunction) :
    ¬ c.isDistance = true :=
  mt of_decide_eq_true h

/-- The clauses of a query that sort by distance. -/
def EngineQuery.distanceSorts (q : EngineQuery) : List EngineSort :=
  q.sorts.filter EngineSort.isDistance

/-- The clauses of criteria by the distance function are those of their distances, if no key is
taken for it. -/
theorem Criterion.filter_clauses {criteria : List Criterion}
    (h : ∀ name order, .key name order ∈ criteria → name ≠ distanceFunction) :
    (criteria.map clause).filter EngineSort.isDistance =
      (criteria.filterMap distance?).map Distance.clause := by
  induction criteria with
  | nil => rfl
  | cons c criteria ih =>
    have hrest := ih fun name order hmem => h name order (List.mem_cons_of_mem _ hmem)
    rw [List.map_cons, List.filterMap_cons]
    cases c with
    | relevance order =>
      have hscore : scoreField ≠ distanceFunction := by decide
      rw [List.filter_cons_of_neg (EngineSort.not_isDistance hscore), hrest]
      rfl
    | key name order =>
      have hname : name ≠ distanceFunction := h name order (List.mem_cons_self ..)
      rw [List.filter_cons_of_neg (EngineSort.not_isDistance hname), hrest]
      rfl
    | distance d =>
      have hdistance : EngineSort.isDistance (clause (.distance d)) = true := decide_eq_true rfl
      rw [List.filter_cons_of_pos hdistance, hrest]
      rfl

/-- No key that sorts come to is taken for the distance function. -/
theorem SortBy.key_ne_distanceFunction {schema : Schema} (hkeys : schema.KeepsDistance)
    {origin : Option Point} {sorts : List SortBy} (name : String) (order : Order)
    (h : .key name order ∈ sorts.flatMap (SortBy.criteria schema origin)) :
    name ≠ distanceFunction := by
  obtain ⟨s, -, hmem⟩ := List.mem_flatMap.mp h
  obtain ⟨field, hfield | hfield, rfl⟩ := key_mem_criteria hmem
  · exact hkeys.effective field hfield
  · exact hkeys.stored s.property field hfield

/-! ## Planned queries -/

namespace Service

/-- The clauses by distance of the query for a request, with the ends of each. -/
structure Measures (schema : Schema) (r : Request) (q : EngineQuery) : Prop where
  /-- Without a point there is nothing to measure. -/
  nowhere : r.filter.origins = [] →
    q.distanceSorts = [] ∧ q.paramValues distanceFieldParam = [] ∧
      q.paramValues distancePointParam = []
  /-- Every key of every sort has a clause in its direction, and is measured from the first
  point. -/
  first : ∀ origin others, r.filter.origins = origin :: others →
    q.distanceSorts = (r.sorts.flatMap fun s =>
        (s.distanceKeys schema).map fun _ => ⟨distanceFunction, s.order.order⟩) ∧
      q.paramValues distanceFieldParam = r.sorts.flatMap (SortBy.distanceKeys schema) ∧
      q.paramValues distancePointParam =
        (r.sorts.flatMap (SortBy.distanceKeys schema)).map fun _ => origin.param

/-- Sorts that are written after a query without any are measured as the filter says, if the point
in use serves them as the first one of the filter does. -/
theorem measures_of_adds {schema : Schema} {r : Request} {origin : Option Point}
    {q q' : EngineQuery} (hkeys : schema.KeepsDistance) (hsorts : q.sorts = [])
    (hparams : q.params = .empty)
    (horigin : r.sorts.flatMap (SortBy.distances schema origin) =
      r.sorts.flatMap (SortBy.distances schema r.filter.origins.head?))
    (h : EngineQuery.Adds ((r.sorts.flatMap (SortBy.criteria schema origin)).map Criterion.clause)
      ((r.sorts.flatMap (SortBy.criteria schema origin)).filterMap Criterion.distance?) q q') :
    Measures schema r q' := by
  have hvalues : ∀ name, q.paramValues name = [] := by
    intro name
    rw [EngineQuery.paramValues, hparams]
    rfl
  have hdistances : (r.sorts.flatMap (SortBy.criteria schema origin)).filterMap
      Criterion.distance? = r.sorts.flatMap (SortBy.distances schema r.filter.origins.head?) := by
    rw [List.filterMap_flatMap]
    exact horigin
  have hclauses : q'.distanceSorts =
      (r.sorts.flatMap (SortBy.distances schema r.filter.origins.head?)).map Distance.clause := by
    rw [EngineQuery.distanceSorts, h.sorts, hsorts, List.nil_append,
      Criterion.filter_clauses (SortBy.key_ne_distanceFunction hkeys), hdistances]
  have hfields := h.keys
  have hpoints := h.points
  rw [hvalues, List.nil_append, hdistances] at hfields hpoints
  constructor
  · intro hnone
    have hnothing : r.sorts.flatMap (SortBy.distances schema none) = [] :=
      List.flatMap_eq_nil_iff.mpr fun s _ => SortBy.distances_none s
    rw [hnone, List.head?_nil, hnothing] at hclauses hfields hpoints
    exact ⟨hclauses, hfields, hpoints⟩
  · intro point others hpoint
    have hmeasured : SortBy.distances schema (some point) =
        fun s => (s.distanceKeys schema).map fun key => ⟨key, point, s.order.order⟩ :=
      funext fun s => SortBy.distances_some s point
    rw [hpoint, List.head?_cons, hmeasured, List.map_flatMap] at hclauses hfields hpoints
    simp only [List.map_map] at hclauses hfields hpoints
    refine ⟨hclauses, ?_, ?_⟩
    · rw [hfields]
      exact congrArg (List.flatMap · r.sorts) (funext fun s => List.map_id _)
    · rw [hpoints, List.map_flatMap]
      rfl

/-- A planned query measures what the sorts of its request ask for. -/
theorem planOf_measures {config : Config} {schema : Schema} {r : Request}
    {written : WrittenFilter} (hkeys : schema.KeepsDistance)
    (hw : r.filter.write schema r.sorts = .ok written) (rows : UInt32) :
    Measures schema r (planOf { config, schema } r written rows).query := by
  obtain ⟨text, htext⟩ := (Filter.write_eq_ok hw).1
  have hadds := (EngineQuery.sortAll_orderedBy schema written.origin
    { written.query with start := some r.start, rows := some rows } r.sorts).toAdds
  have horigin : r.sorts.flatMap (SortBy.distances schema written.origin) =
      r.sorts.flatMap (SortBy.distances schema r.filter.origins.head?) := by
    rw [List.flatMap_def, List.flatMap_def]
    exact congrArg List.flatten
      (List.map_congr_left fun s hs => Filter.distances_of_write hw hs)
  refine measures_of_adds hkeys ?_ ?_ horigin ⟨hadds.sorts, hadds.keys, hadds.points⟩
  · show written.query.sorts = []
    rw [htext]
    rfl
  · show written.query.params = .empty
    rw [htext]
    rfl

/-- **Distances of a plan.** A request whose filter is accepted has a plan unless its page is
refused, and the plan sorts by distance just as its sorts and its filter say: with a clause, a
field and the first point of the filter for every distance that some sort orders by, or, if the
filter names no point, with none of them. -/
theorem plan_measures (config : Config) (schema : Schema) (hkeys : schema.KeepsDistance)
    (r : Request) (s : Session) (written : WrittenFilter)
    (hw : r.filter.write schema r.sorts = .ok written) :
    (∃ failure, ((plan { config, schema } r).run s).1 = .error failure ∧
      (r.startIndex < 1 ∨ pageRows { config, schema } r (s.reply 0) = .error failure)) ∨
    ∃ p, ((plan { config, schema } r).run s).1 = .ok p ∧ Measures schema r p.query := by
  by_cases hstart : r.startIndex < 1
  · have hcheck := r.checkStart_runs s
    rw [if_pos hstart] at hcheck
    exact .inl ⟨_, (hcheck.bind_error _).outcome, .inl hstart⟩
  · have hrun := (plan_runs { config, schema } hstart s).outcome
    have hplanned : planned { config, schema } r (s.reply 0) =
        (pageRows { config, schema } r (s.reply 0)).bind fun rows =>
          .ok (planOf { config, schema } r written rows) := by
      unfold planned
      rw [show Service.writer { config, schema } r.filter r.sorts = .ok written from hw]
      rfl
    rw [hrun, hplanned]
    cases hrows : pageRows { config, schema } r (s.reply 0) with
    | error failure => exact .inl ⟨failure, rfl, .inr rfl⟩
    | ok rows => exact .inr ⟨_, rfl, planOf_measures hkeys hw rows⟩

/-- A schema with two fields that hold places. -/
def routedSchema : Schema := (Resource.schema.register "route" .geometry).schema

/-- The places that a filter names first and second. -/
def farPlace : Point := ⟨-35.5, 149.25⟩
def nearPlace : Point := ⟨51.5, 0⟩

/-- A filter with two points, the first one below a negation, and three sorts, two of them by
distance. -/
def routedRequest : Request where
  filter := .all [.not (.test "route" (.spatial (.nearest farPlace))),
    .test Metacard.locationAttribute (.spatial (.pointRadius nearPlace 500))]
  sortBy := some ⟨"route", .descending⟩
  properties := KeyMap.empty.insert Properties.additionalSorts
    (.sorts [⟨SortBy.relevance, .descending⟩, ⟨SortBy.distance, .ascending⟩])

theorem plan_measures_routed :
    ∃ p, ((plan { config := {}, schema := routedSchema } routedRequest).run {}).1 = .ok p ∧
      p.query.distanceSorts = [⟨distanceFunction, .desc⟩, ⟨distanceFunction, .asc⟩] ∧
      p.query.paramValues distanceFieldParam = ["route_geo", "location_geo"] ∧
      p.query.paramValues distancePointParam = [farPlace.param, farPlace.param] := by
  obtain ⟨written, hw⟩ : ∃ written,
      routedRequest.filter.write routedSchema routedRequest.sorts = .ok written := ⟨_, rfl⟩
  have hkeys : routedSchema.KeepsDistance := SuffixSchema.keepsDistance _
  rcases plan_measures {} routedSchema hkeys routedRequest {} written hw with
    ⟨failure, -, hstart | hpage⟩ | ⟨p, hp, hmeasures⟩
  · exact absurd hstart (by decide)
  · obtain ⟨-, hfits⟩ := (pageRows_eq_error_iff (by decide)).mp hpage
    exact absurd (by decide) hfits
  · obtain ⟨hsorts, hfields, hpoints⟩ := hmeasures.first farPlace [nearPlace] rfl
    exact ⟨p, hp, hsorts, hfields, hpoints⟩

end Service

end CatalogSearch
