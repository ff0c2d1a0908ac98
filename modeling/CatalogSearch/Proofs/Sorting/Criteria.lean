import CatalogSearch.Proofs.KeyMap
import CatalogSearch.Proofs.Sorting
import CatalogSearch.Proofs.Sorting.Routes
import CatalogSearch.Schema.Resource

/-!
# What results are ordered by

A query is ordered by the criteria of its sorts, one after the other. A criterion adds a clause, and
one by distance comes with the key of the field and the point that the distance is measured between,
each as one more value of a parameter.

- `EngineQuery.sortAll_eq_foldl`: sorting is a run over the criteria of all sorts.
- `EngineQuery.Adds`: two queries that differ by some clauses and distances.
- `EngineQuery.OrderedBy`: every part of a query before and after such a run.
- `EngineQuery.sortAll_resolves`: what sorting makes of a query.
-/

namespace CatalogSearch

namespace EngineQuery

/-- Orders by one more criterion. -/
def orderBy (q : EngineQuery) : Criterion → EngineQuery
  | .relevance order => (q.withFields [allFields, scoreField]).pushSort scoreField order
  | .key name order => q.pushSort name order
  | .distance d => q.sortByDistance d.key d.order (some d.origin)

/-! ## Sorting as a run over criteria -/

section Run

variable (schema : Schema) (origin : Option Point)

/-- A sort by distance orders by the criteria of its route, of which there is none without a
point. -/
theorem sortByDistance_eq_foldl (q : EngineQuery) (order : Order) (key : String) :
    q.sortByDistance key order origin =
      ((SortRoute.distance key).criteria origin order).foldl orderBy q := by
  cases origin <;> rfl

theorem sortByField_eq_foldl (order : Order) (q : EngineQuery) (field : String) :
    sortByField schema origin order q field =
      ((SortRoute.ofField schema field).flatMap (SortRoute.criteria origin order)).foldl
        orderBy q := by
  have hplaces : Suffix.isGeometry field = Text.endsIn field "_geo" := rfl
  have hsorted : Suffix.canSort field =
      !(Text.endsIn field "_bin" || Text.endsIn field "_obj") := rfl
  unfold sortByField SortRoute.ofField
  rw [hplaces, hsorted]
  cases Text.endsIn field "_geo" with
  | true =>
    rw [if_pos rfl, if_pos rfl, List.flatMap_singleton]
    exact sortByDistance_eq_foldl origin q order _
  | false => cases Text.endsIn field "_bin" || Text.endsIn field "_obj" <;> rfl

theorem sortBy_eq_foldl (q : EngineQuery) (s : SortBy) :
    sortBy schema origin q s = (s.criteria schema origin).foldl orderBy q := by
  unfold sortBy SortBy.criteria SortBy.routes
  dsimp only
  split
  · rfl
  split
  · rw [List.flatMap_singleton]
    exact sortByDistance_eq_foldl origin q _ _
  split
  · cases schema.field? Metacard.effectiveAttribute .date false .empty <;> rfl
  · have hstep : sortByField schema origin s.order.order = fun q field =>
        ((SortRoute.ofField schema field).flatMap
          (SortRoute.criteria origin s.order.order)).foldl orderBy q := by
      funext q field
      exact sortByField_eq_foldl schema origin _ q field
    rw [hstep, List.flatMap_assoc, List.foldl_flatMap]

/-- Sorting is ordering by the criteria of all sorts, one after the other. -/
theorem sortAll_eq_foldl (q : EngineQuery) (sorts : List SortBy) :
    q.sortAll schema origin sorts =
      (sorts.flatMap (SortBy.criteria schema origin)).foldl orderBy q := by
  have hstep : sortBy schema origin = fun q s => (s.criteria schema origin).foldl orderBy q := by
    funext q s
    exact sortBy_eq_foldl schema origin q s
  rw [sortAll, hstep, List.foldl_flatMap]

end Run

/-! ## What a run over criteria does -/

theorem get?_pushParam_of_ne (q : EngineQuery) {name other : String} (h : other ≠ name)
    (value : String) : (q.pushParam name value).params.get? other = q.params.get? other :=
  KeyMap.get?_insert_of_ne _ h _

theorem paramValues_pushParam_of_ne (q : EngineQuery) {name other : String} (h : other ≠ name)
    (value : String) : (q.pushParam name value).paramValues other = q.paramValues other := by
  rw [paramValues, get?_pushParam_of_ne q h, paramValues]

/-- The query `q'` is `q` with these clauses after its own, and with the ends of these distances
after those that it names. -/
structure Adds (clauses : List EngineSort) (distances : List Distance) (q q' : EngineQuery) :
    Prop where
  sorts : q'.sorts = q.sorts ++ clauses
  keys : q'.paramValues distanceFieldParam =
    q.paramValues distanceFieldParam ++ distances.map (·.key)
  points : q'.paramValues distancePointParam =
    q.paramValues distancePointParam ++ distances.map (·.origin.param)

namespace Adds

theorem refl (q : EngineQuery) : Adds [] [] q q :=
  ⟨(List.append_nil _).symm, (List.append_nil _).symm, (List.append_nil _).symm⟩

theorem trans {q q' q'' : EngineQuery} {clauses clauses' : List EngineSort}
    {distances distances' : List Distance} (h : Adds clauses distances q q')
    (h' : Adds clauses' distances' q' q'') :
    Adds (clauses ++ clauses') (distances ++ distances') q q'' where
  sorts := by rw [h'.sorts, h.sorts, List.append_assoc]
  keys := by rw [h'.keys, h.keys, List.map_append, List.append_assoc]
  points := by rw [h'.points, h.points, List.map_append, List.append_assoc]

end Adds

theorem withFields_adds (q : EngineQuery) (fields : List String) :
    Adds [] [] q (q.withFields fields) :=
  ⟨(List.append_nil _).symm, (List.append_nil _).symm, (List.append_nil _).symm⟩

theorem pushSort_adds (q : EngineQuery) (field : String) (order : Order) :
    Adds [⟨field, order⟩] [] q (q.pushSort field order) :=
  ⟨rfl, (List.append_nil _).symm, (List.append_nil _).symm⟩

/-- A sort by distance adds one clause and both ends. -/
theorem sortByDistance_adds (q : EngineQuery) (d : Distance) :
    Adds [d.clause] [d] q (q.sortByDistance d.key d.order (some d.origin)) := by
  have hne : distanceFieldParam ≠ distancePointParam := by decide
  unfold sortByDistance
  refine ⟨rfl, ?_, ?_⟩
  · rw [paramValues_pushParam_of_ne _ hne, paramValues_pushParam]
    rfl
  · rw [paramValues_pushParam, paramValues_pushParam_of_ne _ hne.symm]
    rfl

/-- The query `q'` is `q` ordered by these criteria, after its own sorts. -/
structure OrderedBy (criteria : List Criterion) (q q' : EngineQuery) : Prop extends
    SameSearch q q', Adds (criteria.map Criterion.clause) (criteria.filterMap Criterion.distance?)
      q q' where
  /-- Parameters are left alone, but for the ends of the distances that are added. -/
  params : ∀ name, (name ∈ [distanceFieldParam, distancePointParam] →
    criteria.filterMap Criterion.distance? = []) → q'.params.get? name = q.params.get? name
  /-- The fields are those that the last criterion by a computed value asks for. -/
  fields : q'.fields = (criteria.filterMap Criterion.requested?).getLast?.getD q.fields

namespace OrderedBy

theorem refl (q : EngineQuery) : OrderedBy [] q q where
  toSameSearch := .refl q
  toAdds := .refl q
  params _ _ := rfl
  fields := rfl

theorem trans {criteria criteria' : List Criterion} {q q' q'' : EngineQuery}
    (h : OrderedBy criteria q q') (h' : OrderedBy criteria' q' q'') :
    OrderedBy (criteria ++ criteria') q q'' where
  toSameSearch := h.toSameSearch.trans h'.toSameSearch
  toAdds := by
    rw [List.map_append, List.filterMap_append]
    exact h.toAdds.trans h'.toAdds
  params := by
    intro name hname
    rw [List.filterMap_append] at hname
    rw [h'.params name fun hend => (List.append_eq_nil_iff.mp (hname hend)).2,
      h.params name fun hend => (List.append_eq_nil_iff.mp (hname hend)).1]
  fields := by
    rw [h'.fields, h.fields, List.filterMap_append, List.getLast?_append, Option.getD_or]

end OrderedBy

/-- One criterion adds its clause, and its distance if it is one by distance. -/
theorem orderBy_orderedBy (q : EngineQuery) (c : Criterion) : OrderedBy [c] q (q.orderBy c) := by
  cases c with
  | relevance order =>
    exact {
      toSameSearch := (withFields_sameSearch q _).trans (pushSort_sameSearch _ _ _)
      toAdds := (withFields_adds q _).trans (pushSort_adds _ scoreField order)
      params := fun _ _ => rfl
      fields := rfl }
  | key name order =>
    exact {
      toSameSearch := pushSort_sameSearch q name order
      toAdds := pushSort_adds q name order
      params := fun _ _ => rfl
      fields := rfl }
  | distance d =>
    refine {
      toSameSearch := sortByDistance_sameSearch q d.key d.order (some d.origin)
      toAdds := sortByDistance_adds q d
      params := fun name hname => ?_
      fields := rfl }
    -- a distance is added, so the parameter is none of its ends
    have hend : name ∉ [distanceFieldParam, distancePointParam] := fun h => nomatch hname h
    obtain ⟨hkey, hpoint⟩ := not_or.mp (mt List.mem_cons.mpr hend)
    show ((EngineQuery.pushParam _ _ _).pushParam _ _).params.get? name = _
    rw [get?_pushParam_of_ne _ (mt List.mem_singleton.mpr hpoint), get?_pushParam_of_ne _ hkey]
    rfl

/-- Criteria are added in order. -/
theorem foldl_orderedBy (criteria : List Criterion) (q : EngineQuery) :
    OrderedBy criteria q (criteria.foldl orderBy q) := by
  induction criteria generalizing q with
  | nil => exact .refl q
  | cons c criteria ih => exact (orderBy_orderedBy q c).trans (ih (q.orderBy c))

variable (schema : Schema) (origin : Option Point)

theorem sortAll_orderedBy (q : EngineQuery) (sorts : List SortBy) :
    OrderedBy (sorts.flatMap (SortBy.criteria schema origin)) q
      (q.sortAll schema origin sorts) := by
  rw [sortAll_eq_foldl]
  exact foldl_orderedBy _ q

/-- Sorting looks for the same records on the same page. -/
theorem sortAll_sameSearch (q : EngineQuery) (sorts : List SortBy) :
    q.SameSearch (q.sortAll schema origin sorts) :=
  (sortAll_orderedBy schema origin q sorts).toSameSearch

theorem lastSortKey_append (sorts : List SortBy) (s : SortBy) :
    lastSortKey schema (sorts ++ [s]) = schema.sortKey s.property := by
  rw [lastSortKey, List.getLast?_concat]
  rfl

/-- **Resolved sorts.** A sorted query is ordered by its own sorts and then by the criteria that
the requested ones come to, in order; nothing else about it changes but the ends of the distances
and the fields that are asked for. Sorts can be applied in portions, and the last of them gives
the key that is reported. -/
theorem sortAll_resolves (q : EngineQuery) (sorts : List SortBy) :
    OrderedBy (sorts.flatMap (SortBy.criteria schema origin)) q
        (q.sortAll schema origin sorts) ∧
      (∀ more, q.sortAll schema origin (sorts ++ more) =
        (q.sortAll schema origin sorts).sortAll schema origin more) ∧
      lastSortKey schema [] = "" ∧
      ∀ s, lastSortKey schema (sorts ++ [s]) = schema.sortKey s.property :=
  ⟨sortAll_orderedBy schema origin q sorts, sortAll_append schema origin q sorts, rfl,
    lastSortKey_append schema sorts⟩

/-- A schema that stores every attribute as places, as binary values and as a text. -/
def threefoldSchema : Schema :=
  { Resource.schema.schema with
    storedFields := fun name => [name ++ "_geo", name ++ "_bin", name ++ "_txt"] }

/-- Sorts by a property with all three fields, by relevance, and by distance. -/
def threefoldSorts : List SortBy :=
  [⟨Resource.title, .descending⟩, ⟨SortBy.relevance, .ascending⟩, ⟨SortBy.distance, .ascending⟩]

/-- The binary field is passed over, and the text is sorted by its copy. -/
theorem sortAll_resolves_threefold :
    let point : Point := ⟨51.5, 0⟩
    let q := EngineQuery.sortAll threefoldSchema (some point) {} threefoldSorts
    q.sorts = [⟨distanceFunction, .desc⟩, ⟨"title_txt_sort", .desc⟩, ⟨scoreField, .asc⟩,
        ⟨distanceFunction, .asc⟩] ∧
      q.paramValues distanceFieldParam = ["title_geo", "location_geo"] ∧
      q.paramValues distancePointParam = [point.param, point.param] ∧
      q.fields = [allFields, distanceRequest] := by
  intro point q
  have hordered := (sortAll_resolves threefoldSchema (some point) {} threefoldSorts).1
  exact ⟨hordered.sorts, hordered.keys, hordered.points, hordered.fields⟩

end EngineQuery

end CatalogSearch
