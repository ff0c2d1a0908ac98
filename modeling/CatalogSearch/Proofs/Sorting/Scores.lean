import CatalogSearch.Proofs.Sorting.Criteria

/-!
# Fields that sorts ask for

A sort by relevance asks for the score of every result, and a sort by distance for its distance,
each with all other fields. Asking replaces what was asked for before, so the last such sort
decides.

- `SortBy.MeasuresDistance`: a sort that takes effect as one by distance.
- `EngineQuery.fields_sortAll`: sorts leave the fields of the last criterion that asks for any.
- `EngineQuery.RequestsScores`: every sort that is by a score has this score asked for.
- `EngineQuery.sortAll_requests_iff`: this holds iff the sorts are not by both scores.
-/

namespace CatalogSearch

namespace SortBy

/-- The sort takes effect as one by distance: it orders by some, and there is a point to measure
from. -/
def MeasuresDistance (schema : Schema) (origin : Option Point) (s : SortBy) : Prop :=
  s.distances schema origin ≠ []

end SortBy

/-! ## The fields of a sorted query -/

/-- A criterion asks for the score if it is by relevance, and for the distance if it is by one. -/
theorem Criterion.requested?_eq_some_iff {c : Criterion} {fields : List String} :
    c.requested? = some fields ↔
      (∃ order, c = .relevance order ∧ fields = [allFields, scoreField]) ∨
        ∃ d, c = .distance d ∧ fields = [allFields, distanceRequest] := by
  cases c <;> simp [requested?, eq_comm]

namespace SortBy

variable {schema : Schema} {origin : Option Point} {s : SortBy}

/-- What a criterion of a sort asks for tells what kind of sort it is. -/
theorem kind_of_requested {c : Criterion} {fields : List String}
    (hc : c ∈ s.criteria schema origin) (h : c.requested? = some fields) :
    (s.property = relevance ∧ fields = [allFields, scoreField]) ∨
      (s.MeasuresDistance schema origin ∧ fields = [allFields, distanceRequest]) := by
  rcases Criterion.requested?_eq_some_iff.mp h with ⟨order, rfl, hfields⟩ | ⟨d, rfl, hfields⟩
  · exact .inl ⟨relevance_mem_criteria hc, hfields⟩
  · exact .inr ⟨List.ne_nil_of_mem (mem_distances_iff.mpr hc), hfields⟩

/-- A sort by a score has a criterion that asks for some fields. -/
theorem exists_requested
    (h : s.property = relevance ∨ s.MeasuresDistance schema origin) :
    ∃ c ∈ s.criteria schema origin, ∃ fields, c.requested? = some fields := by
  rcases h with hproperty | hmeasures
  · refine ⟨.relevance s.order.order, ?_, _, rfl⟩
    rw [criteria_of_relevance hproperty]
    exact List.mem_singleton_self _
  · obtain ⟨d, hd⟩ := List.exists_mem_of_ne_nil _ hmeasures
    exact ⟨.distance d, mem_distances_iff.mp hd, _, rfl⟩

end SortBy

namespace EngineQuery

/-- Sorts leave the fields of the last criterion that asks for any. -/
theorem fields_sortAll (schema : Schema) (origin : Option Point) (q : EngineQuery)
    (sorts : List SortBy) :
    (q.sortAll schema origin sorts).fields =
      ((sorts.flatMap (SortBy.criteria schema origin)).filterMap
        Criterion.requested?).getLast?.getD q.fields :=
  (sortAll_orderedBy schema origin q sorts).fields

/-! ## Scores -/

/-- Every sort that is by a score has this score asked for, with all other fields. -/
structure RequestsScores (schema : Schema) (origin : Option Point) (sorts : List SortBy)
    (q : EngineQuery) : Prop where
  relevance : (∃ s ∈ sorts, s.property = SortBy.relevance) →
    allFields ∈ q.fields ∧ scoreField ∈ q.fields
  distance : (∃ s ∈ sorts, s.MeasuresDistance schema origin) →
    allFields ∈ q.fields ∧ distanceRequest ∈ q.fields

variable {schema : Schema} {origin : Option Point} {sorts : List SortBy}

/-- Once some sort is by a score, the fields are those of a sort by relevance or by distance. -/
theorem fields_sortAll_requested (q : EngineQuery) {s : SortBy} (hs : s ∈ sorts)
    (hscored : s.property = SortBy.relevance ∨ s.MeasuresDistance schema origin) :
    ((∃ t ∈ sorts, t.property = SortBy.relevance) ∧
        (q.sortAll schema origin sorts).fields = [allFields, scoreField]) ∨
      ((∃ t ∈ sorts, t.MeasuresDistance schema origin) ∧
        (q.sortAll schema origin sorts).fields = [allFields, distanceRequest]) := by
  obtain ⟨c, hc, asked, hasked⟩ := SortBy.exists_requested hscored
  have hmem : asked ∈ (sorts.flatMap (SortBy.criteria schema origin)).filterMap
      Criterion.requested? :=
    List.mem_filterMap.mpr ⟨c, List.mem_flatMap.mpr ⟨s, hs, hc⟩, hasked⟩
  obtain ⟨last, hlast⟩ := Option.ne_none_iff_exists'.mp
    (mt List.getLast?_eq_none_iff.mp (List.ne_nil_of_mem hmem))
  obtain ⟨c', hc', hrequest⟩ := List.mem_filterMap.mp (List.mem_of_getLast? hlast)
  obtain ⟨t, ht, hc'⟩ := List.mem_flatMap.mp hc'
  have hfields : (q.sortAll schema origin sorts).fields = last := by
    rw [fields_sortAll, hlast]
    rfl
  rw [hfields]
  exact (SortBy.kind_of_requested hc' hrequest).imp
    (fun h => ⟨⟨t, ht, h.1⟩, h.2⟩) (fun h => ⟨⟨t, ht, h.1⟩, h.2⟩)

/-- **One score at a time.** Every sort that is by a score has this score asked for iff the sorts
are not by both: then only the last of them counts. -/
theorem sortAll_requests_iff (schema : Schema) (origin : Option Point) (q : EngineQuery)
    (sorts : List SortBy) :
    (q.sortAll schema origin sorts).RequestsScores schema origin sorts ↔
      ¬ ((∃ s ∈ sorts, s.property = SortBy.relevance) ∧
        ∃ s ∈ sorts, s.MeasuresDistance schema origin) := by
  constructor
  · rintro hrequests ⟨hrelevance, hdistance⟩
    obtain ⟨s, hs, hproperty⟩ := id hrelevance
    -- The fields are those of one kind of sort, and the other kind misses its score there.
    rcases fields_sortAll_requested q hs (.inl hproperty) with ⟨-, hfields⟩ | ⟨-, hfields⟩
    · have hmissing := (hrequests.distance hdistance).2
      rw [hfields] at hmissing
      exact absurd hmissing (by decide)
    · have hmissing := (hrequests.relevance hrelevance).2
      rw [hfields] at hmissing
      exact absurd hmissing (by decide)
  · intro hone
    constructor
    case relevance =>
      rintro ⟨s, hs, hproperty⟩
      rcases fields_sortAll_requested q hs (.inl hproperty) with ⟨-, hfields⟩ | ⟨hdistance, -⟩
      · rw [hfields]
        exact ⟨.head _, .tail _ (.head _)⟩
      · exact absurd ⟨⟨s, hs, hproperty⟩, hdistance⟩ hone
    case distance =>
      rintro ⟨s, hs, hmeasures⟩
      rcases fields_sortAll_requested q hs (.inr hmeasures) with ⟨hrelevance, -⟩ | ⟨-, hfields⟩
      · exact absurd ⟨hrelevance, s, hs, hmeasures⟩ hone
      · rw [hfields]
        exact ⟨.head _, .tail _ (.head _)⟩

/-- Results by score, and the nearest first among equals: the score is not asked for. -/
theorem sortAll_forgets_score :
    let sorts : List SortBy := [⟨SortBy.relevance, .descending⟩, ⟨SortBy.distance, .ascending⟩]
    let schema := Resource.schema.schema
    let origin : Option Point := some ⟨10, 20⟩
    let q : EngineQuery := {}
    q.fields = [] ∧ ¬ (q.sortAll schema origin sorts).RequestsScores schema origin sorts := by
  refine ⟨rfl, fun hrequests => ?_⟩
  have hmissing := (hrequests.relevance ⟨_, .head _, rfl⟩).2
  exact absurd hmissing (by decide)

end EngineQuery

end CatalogSearch
