import CatalogSearch.Filter.Basic

/-!
# Tests and truth of filters

- `Filter.tests`: the tests of a filter, from left to right.
- `Filter.holds`: whether a filter holds, from whether its tests do.
- `Filter.depths_le_iff`: several filters are as deep as the deepest of them.
-/

namespace CatalogSearch

namespace Filter

/-- The tests of a filter with their properties, from left to right. -/
def tests : Filter → List (String × Test)
  | all children => testsOf children
  | any children => testsOf children
  | not child => tests child
  | test property wanted => [(property, wanted)]
where
  /-- The tests of several filters. -/
  testsOf : List Filter → List (String × Test)
    | [] => []
    | f :: fs => tests f ++ testsOf fs

/-- Whether a filter holds, from whether its tests do: a conjunction without children holds, and
a disjunction without children does not. -/
def holds (truth : String → Test → Bool) : Filter → Bool
  | all children => allHold children
  | any children => anyHolds children
  | not child => !holds truth child
  | test property wanted => truth property wanted
where
  /-- Every one of several filters holds. -/
  allHold : List Filter → Bool
    | [] => true
    | f :: fs => holds truth f && allHold fs
  /-- Some one of several filters holds. -/
  anyHolds : List Filter → Bool
    | [] => false
    | f :: fs => holds truth f || anyHolds fs

theorem allHold_eq (truth : String → Test → Bool) (fs : List Filter) :
    holds.allHold truth fs = fs.all (holds truth) := by
  induction fs with
  | nil => rfl
  | cons f fs ih => rw [holds.allHold, ih, List.all_cons]

theorem anyHolds_eq (truth : String → Test → Bool) (fs : List Filter) :
    holds.anyHolds truth fs = fs.any (holds truth) := by
  induction fs with
  | nil => rfl
  | cons f fs ih => rw [holds.anyHolds, ih, List.any_cons]

/-- Several filters are as deep as the deepest of them. -/
theorem depths_le_iff {fs : List Filter} {n : Nat} :
    depth.depths fs ≤ n ↔ ∀ f ∈ fs, f.depth ≤ n := by
  induction fs with
  | nil => simp [depth.depths]
  | cons f fs ih => rw [depth.depths, Nat.max_le, ih, List.forall_mem_cons]

end Filter

end CatalogSearch
