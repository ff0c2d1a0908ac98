import CatalogSearch.Proofs.Annotations

/-!
# Stages in any order

What a stage writes depends on the answer alone, and no two stages write under the same name. So
the stages can be run in any order and as often as wanted.

- `Stage`, `Stage.apply`: the stages, and one of them run on an answer.
- `Stage.HasPart`, `Stage.Shows`: the answer has what the stage looks for, and the accessor of the
  stage returns it.
- `Stage.get?_applyAll`: what stands under a name after some stages.
- `Stage.applyAll_independent`: only which stages were run matters.
-/

namespace CatalogSearch

/-- The stages that note a part of an answer. -/
inductive Stage where
  /-- Notes the counted values. -/
  | facets
  /-- Notes the completed words. -/
  | completions
  /-- Notes that the engine stopped early. -/
  | earlyStop
  deriving DecidableEq

namespace Stage

/-- Runs a stage on an answer. -/
def apply (schema : Schema) (r : EngineResponse) (a : Annotations) : Stage → Annotations
  | facets => a.addFacets schema r
  | completions => a.addCompletions r
  | earlyStop => a.addPartial r

/-- Runs stages on an answer, one after the other. -/
def applyAll (schema : Schema) (r : EngineResponse) (stages : List Stage) (a : Annotations) :
    Annotations :=
  stages.foldl (apply schema r) a

/-- The name that a stage writes under. -/
def name : Stage → String
  | facets => Annotations.facetResults
  | completions => Annotations.completionResult
  | earlyStop => Annotations.partialResults

/-- The answer has the part that a stage looks for. -/
def HasPart (r : EngineResponse) : Stage → Prop
  | facets => r.facetFields ≠ []
  | completions => r.completions ≠ none
  | earlyStop => r.header.get? partialHeader = some (.bool true)

/-- The accessor of a stage returns what the part of the answer says. -/
def Shows (schema : Schema) (r : EngineResponse) (a : Annotations) : Stage → Prop
  | facets => a.facets? = some (r.facetFields.map (CountedField.result schema))
  | completions => ∃ groups, r.completions = some groups ∧
      a.completions? = some ((groups.flatMap (·.words)).map fun w => (w.payload, w.term))
  | earlyStop => a.isPartial = true

/-! ## One stage -/

/-- What a stage notes of an answer, if anything. -/
def noted (schema : Schema) (r : EngineResponse) : Stage → Option Annotation
  | facets => r.notedFacets schema
  | completions => r.notedCompletions
  | earlyStop => r.notedPartial

variable {schema : Schema} {r : EngineResponse}

theorem name_injective {s t : Stage} (h : s.name = t.name) : s = t := by
  revert h
  cases s <;> cases t <;> decide

/-- The view of the annotations after a stage. -/
theorem get?_apply (s : Stage) (a : Annotations) (name : String) :
    (s.apply schema r a).get? name =
      if name = s.name then (s.noted schema r).or (a.get? name) else a.get? name := by
  cases s with
  | facets => exact Annotations.get?_addFacets schema r a name
  | completions => exact Annotations.get?_addCompletions r a name
  | earlyStop => exact Annotations.get?_addPartial r a name

/-- A stage that does not find its part notes nothing. -/
theorem noted_of_not_hasPart {s : Stage} (h : ¬ s.HasPart r) : s.noted schema r = none := by
  rw [Option.eq_none_iff_forall_ne_some]
  intro x hx
  cases s with
  | facets => exact h (EngineResponse.notedFacets_eq_some_iff.mp hx).1
  | completions =>
    obtain ⟨groups, hgroups, -⟩ := EngineResponse.notedCompletions_eq_some_iff.mp hx
    exact h (Option.ne_none_iff_exists'.mpr ⟨groups, hgroups⟩)
  | earlyStop => exact h (EngineResponse.notedPartial_eq_some_iff.mp hx).1

/-- What a stage with its part notes is what its accessor reads. -/
theorem shows_of_get? {s : Stage} (h : s.HasPart r) {a : Annotations}
    (hnoted : ∀ x, s.noted schema r = some x → a.get? s.name = some x) : s.Shows schema r a := by
  cases s with
  | facets =>
    have hget := hnoted _ (EngineResponse.notedFacets_eq_some_iff.mpr ⟨h, rfl⟩)
    rw [name] at hget
    rw [Shows, Annotations.facets?, hget]
  | completions =>
    obtain ⟨groups, hgroups⟩ := Option.ne_none_iff_exists'.mp h
    have hget := hnoted _
      (EngineResponse.notedCompletions_eq_some_iff.mpr ⟨groups, hgroups, rfl⟩)
    rw [name] at hget
    refine ⟨groups, hgroups, ?_⟩
    rw [Annotations.completions?, hget]
  | earlyStop =>
    have hget := hnoted _ (EngineResponse.notedPartial_eq_some_iff.mpr ⟨h, rfl⟩)
    rw [name] at hget
    rw [Shows, Annotations.isPartial, hget]

/-! ## Several stages -/

/-- A name of no stage that was run keeps what stands under it. -/
theorem get?_applyAll_of_ne {stages : List Stage} {name : String}
    (h : ∀ s ∈ stages, s.name ≠ name) (a : Annotations) :
    (applyAll schema r stages a).get? name = a.get? name := by
  induction stages generalizing a with
  | nil => rfl
  | cons t stages ih =>
    obtain ⟨ht, hrest⟩ := List.forall_mem_cons.mp h
    show (applyAll schema r stages (t.apply schema r a)).get? name = _
    rw [ih hrest, get?_apply, if_neg (Ne.symm ht)]

/-- Under the name of a stage that was run stands what it noted, or else what stood there. -/
theorem get?_applyAll {stages : List Stage} {s : Stage} (h : s ∈ stages) (a : Annotations) :
    (applyAll schema r stages a).get? s.name = (s.noted schema r).or (a.get? s.name) := by
  induction stages generalizing a with
  | nil => cases h
  | cons t stages ih =>
    show (applyAll schema r stages (t.apply schema r a)).get? s.name = _
    by_cases hrest : s ∈ stages
    · -- run again later, the stage notes the same
      rw [ih hrest, get?_apply]
      split
      · next heq =>
        obtain rfl := name_injective heq
        rw [← Option.or_assoc, Option.or_self]
      · rfl
    · obtain rfl : s = t := (List.mem_cons.mp h).resolve_right hrest
      have hne : ∀ t ∈ stages, t.name ≠ s.name :=
        fun t ht heq => hrest (name_injective heq ▸ ht)
      rw [get?_applyAll_of_ne hne, get?_apply, if_pos rfl]

/-- Lists of the same stages do the same. -/
theorem applyAll_congr {stages stages' : List Stage} (h : ∀ s, s ∈ stages ↔ s ∈ stages')
    (a : Annotations) : applyAll schema r stages a = applyAll schema r stages' a := by
  refine KeyMap.ext_get? fun name => ?_
  by_cases hname : ∃ s ∈ stages, s.name = name
  · obtain ⟨s, hs, rfl⟩ := hname
    rw [get?_applyAll hs, get?_applyAll ((h s).mp hs)]
  · have hne : ∀ s ∈ stages, s.name ≠ name := fun s hs heq => hname ⟨s, hs, heq⟩
    rw [get?_applyAll_of_ne hne, get?_applyAll_of_ne fun s hs => hne s ((h s).mpr hs)]

/-- What stages make of the annotations `a`. -/
structure Notes (schema : Schema) (r : EngineResponse) (stages : List Stage)
    (a a' : Annotations) : Prop where
  /-- An entry stays if no stage that writes under its name was run and found its part. -/
  kept : ∀ name, (∀ s ∈ stages, s.HasPart r → s.name ≠ name) → a'.get? name = a.get? name
  /-- So do the words of a correction, whatever was run. -/
  corrections : ∀ name ∈ [Annotations.didYouMean, Annotations.showingResultsFor],
    a'.get? name = a.get? name
  /-- The accessors of the stages that were run and found their parts return these. -/
  shown : ∀ s ∈ stages, s.HasPart r → s.Shows schema r a'

theorem applyAll_notes (stages : List Stage) (a : Annotations) :
    Notes schema r stages a (applyAll schema r stages a) where
  kept := by
    intro name hname
    by_cases hrun : ∃ s ∈ stages, s.name = name
    · obtain ⟨s, hs, rfl⟩ := hrun
      have hpart : ¬ s.HasPart r := fun hpart => hname s hs hpart rfl
      rw [get?_applyAll hs, noted_of_not_hasPart hpart, Option.none_or]
    · exact get?_applyAll_of_ne (fun s hs heq => hrun ⟨s, hs, heq⟩) a
  corrections := by
    intro name hname
    refine get?_applyAll_of_ne (fun s _ heq => ?_) a
    have hdistinct : ∀ s : Stage,
        s.name ∉ [Annotations.didYouMean, Annotations.showingResultsFor] := by
      intro s
      cases s <;> decide
    exact hdistinct s (heq ▸ hname)
  shown := by
    intro s hs hpart
    refine shows_of_get? hpart fun x hx => ?_
    rw [get?_applyAll hs, hx, Option.some_or]

/-- **Independent stages.** Stages run in any order, with any repetitions, change nothing but the
entries of those that find their parts, which their accessors then return. The result depends only
on which stages were run; in particular any two of them commute, each is done once and for all,
and one that does not find its part does nothing. -/
theorem applyAll_independent (schema : Schema) (r : EngineResponse) (stages : List Stage)
    (a : Annotations) :
    Notes schema r stages a (applyAll schema r stages a) ∧
      (∀ stages', (∀ s, s ∈ stages' ↔ s ∈ stages) →
        applyAll schema r stages' a = applyAll schema r stages a) ∧
      (∀ s t : Stage,
        t.apply schema r (s.apply schema r a) = s.apply schema r (t.apply schema r a)) ∧
      (∀ s : Stage, s.apply schema r (s.apply schema r a) = s.apply schema r a) ∧
      ∀ s : Stage, ¬ s.HasPart r → s.apply schema r a = a := by
  refine ⟨applyAll_notes stages a, fun stages' h => applyAll_congr h a, ?_, ?_, ?_⟩
  · intro s t
    have hsame : ∀ u, u ∈ [s, t] ↔ u ∈ [t, s] := fun u => List.Perm.mem_iff (.swap t s [])
    exact applyAll_congr hsame a
  · intro s
    have hsame : ∀ u, u ∈ [s, s] ↔ u ∈ [s] := by simp
    exact applyAll_congr hsame a
  · intro s hpart
    refine KeyMap.ext_get? fun name => (applyAll_notes [s] a).kept name fun t ht htpart => ?_
    exact absurd (List.mem_singleton.mp ht ▸ htpart) hpart

end Stage

end CatalogSearch
