import CatalogSearch.Sorting

/-!
# What sorting leaves alone

Sorting adds sorts, requested fields and parameters to a query. None of these steps changes what
the query looks for.

- `EngineQuery.SameSearch`: two queries that look for the same records on the same page.
- `EngineQuery.sortByDistance_sameSearch`: a query before and after a sort by distance.
-/

namespace CatalogSearch

namespace EngineQuery

/-- The queries differ at most in their sorts, their requested fields and their parameters. -/
structure SameSearch (q q' : EngineQuery) : Prop where
  handler : q'.handler = q.handler
  text : q'.text = q.text
  filters : q'.filters = q.filters
  start : q'.start = q.start
  rows : q'.rows = q.rows
  facet : q'.facet = q.facet
  timeAllowed : q'.timeAllowed = q.timeAllowed

namespace SameSearch

theorem refl (q : EngineQuery) : q.SameSearch q :=
  ⟨rfl, rfl, rfl, rfl, rfl, rfl, rfl⟩

theorem trans {q q' q'' : EngineQuery} (h : q.SameSearch q') (h' : q'.SameSearch q'') :
    q.SameSearch q'' where
  handler := h'.handler.trans h.handler
  text := h'.text.trans h.text
  filters := h'.filters.trans h.filters
  start := h'.start.trans h.start
  rows := h'.rows.trans h.rows
  facet := h'.facet.trans h.facet
  timeAllowed := h'.timeAllowed.trans h.timeAllowed

end SameSearch

theorem pushSort_sameSearch (q : EngineQuery) (field : String) (order : Order) :
    q.SameSearch (q.pushSort field order) :=
  ⟨rfl, rfl, rfl, rfl, rfl, rfl, rfl⟩

theorem withFields_sameSearch (q : EngineQuery) (fields : List String) :
    q.SameSearch (q.withFields fields) :=
  ⟨rfl, rfl, rfl, rfl, rfl, rfl, rfl⟩

theorem pushParam_sameSearch (q : EngineQuery) (name value : String) :
    q.SameSearch (q.pushParam name value) :=
  ⟨rfl, rfl, rfl, rfl, rfl, rfl, rfl⟩

theorem sortByDistance_sameSearch (q : EngineQuery) (key : String) (order : Order)
    (origin : Option Point) : q.SameSearch (q.sortByDistance key order origin) := by
  cases origin with
  | none => exact .refl q
  | some point =>
    exact (((pushSort_sameSearch q _ _).trans (withFields_sameSearch _ _)).trans
      (pushParam_sameSearch _ _ _)).trans (pushParam_sameSearch _ _ _)

end EngineQuery

end CatalogSearch
