import CatalogSearch.Completions
import CatalogSearch.Facets
import CatalogSearch.Hits
import CatalogSearch.Proofs.KeyMap

/-!
# What the stages of a search note

Each stage reads one part of an answer and writes under one name of its own. So every
stage is described by what it notes of an answer, if anything, and by its name.

- `EngineResponse.notedFacets`, `notedCompletions`, `notedPartial`: what is noted.
- `Annotations.get?_addFacets`, `get?_addCompletions`, `get?_addPartial`: the view of
  the annotations after a stage.
-/

namespace CatalogSearch

namespace EngineResponse

/-- What is noted of the counted fields. -/
def notedFacets (schema : Schema) (r : EngineResponse) : Option Annotation :=
  if r.facetFields.isEmpty then none
  else some (.facets (r.facetFields.map (CountedField.result schema)))

/-- What is noted of the completed words. -/
def notedCompletions (r : EngineResponse) : Option Annotation :=
  r.completions.map fun groups =>
    .completions ((groups.flatMap (·.words)).map fun w => (w.payload, w.term))

/-- What is noted of an early stop. -/
def notedPartial (r : EngineResponse) : Option Annotation :=
  match r.header.get? partialHeader with
  | some (.bool true) => some (.flag true)
  | _ => none

theorem notedFacets_eq_some_iff {schema : Schema} {r : EngineResponse} {x : Annotation} :
    r.notedFacets schema = some x ↔
      r.facetFields ≠ [] ∧ x = .facets (r.facetFields.map (CountedField.result schema)) := by
  unfold notedFacets
  cases hfields : r.facetFields with
  | nil => simp
  | cons f fs =>
    simp only [List.isEmpty_cons, Bool.false_eq_true, if_false, Option.some.injEq, ne_eq,
      reduceCtorEq, not_false_eq_true, true_and]
    exact eq_comm

theorem notedCompletions_eq_some_iff {r : EngineResponse} {x : Annotation} :
    r.notedCompletions = some x ↔ ∃ groups, r.completions = some groups ∧
      x = .completions ((groups.flatMap (·.words)).map fun w => (w.payload, w.term)) := by
  unfold notedCompletions
  rw [Option.map_eq_some_iff]
  exact exists_congr fun groups => and_congr_right fun _ => eq_comm

theorem notedPartial_eq_some_iff {r : EngineResponse} {x : Annotation} :
    r.notedPartial = some x ↔
      r.header.get? partialHeader = some (.bool true) ∧ x = .flag true := by
  unfold notedPartial
  constructor
  · intro h
    split at h
    · next heq => exact ⟨heq, (Option.some.inj h).symm⟩
    · cases h
  · rintro ⟨h, rfl⟩
    rw [h]

end EngineResponse

namespace Annotations

/-- Noting something, if there is anything, under one name. -/
theorem get?_note (a : Annotations) (key name : String) (noted : Option Annotation) :
    KeyMap.get? (match noted with | some x => a.insert key x | none => a) name =
      if name = key then noted.or (a.get? name) else a.get? name := by
  cases noted with
  | none =>
    by_cases h : name = key
    · rw [if_pos h]
      rfl
    · rw [if_neg h]
  | some x => exact a.get?_insert key name x

theorem get?_addFacets (schema : Schema) (r : EngineResponse) (a : Annotations)
    (name : String) :
    (a.addFacets schema r).get? name =
      if name = facetResults then (r.notedFacets schema).or (a.get? name)
      else a.get? name := by
  rw [← get?_note]
  unfold addFacets EngineResponse.notedFacets
  split <;> rfl

theorem get?_addCompletions (r : EngineResponse) (a : Annotations) (name : String) :
    (a.addCompletions r).get? name =
      if name = completionResult then r.notedCompletions.or (a.get? name)
      else a.get? name := by
  rw [← get?_note]
  unfold addCompletions EngineResponse.notedCompletions
  cases r.completions <;> rfl

theorem get?_addPartial (r : EngineResponse) (a : Annotations) (name : String) :
    (a.addPartial r).get? name =
      if name = partialResults then r.notedPartial.or (a.get? name) else a.get? name := by
  rw [← get?_note]
  unfold addPartial
  cases hnoted : r.notedPartial with
  | some x =>
    obtain ⟨hheader, rfl⟩ := EngineResponse.notedPartial_eq_some_iff.mp hnoted
    rw [hheader]
  | none =>
    split
    · next hheader =>
      rw [EngineResponse.notedPartial_eq_some_iff.mpr ⟨hheader, rfl⟩] at hnoted
      cases hnoted
    · rfl

end Annotations

end CatalogSearch
