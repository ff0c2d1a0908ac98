import CatalogSearch.Config.Basic
import CatalogSearch.Metacard

/-!
# When writes are found

- `Visibility`: when the records of a write are found by searches.
- `Visibility.of`: the choice for records, by their types; a forced commit wins.
- `CommitTerms`: what a commit waits for.
-/

namespace CatalogSearch

/-- When the records of a write are found by searches (`CommitStrategy`). -/
inductive Visibility where
  /-- By the engine's own schedule. -/
  | scheduled
  /-- Within so many milliseconds. -/
  | within (milliseconds : UInt32)
  /-- Before the write returns. -/
  | immediate
  deriving DecidableEq, Inhabited

/-- When these records are found: at once if a commit is forced, and soon if any is of a prompt type
(`commit_strategy`). -/
def Visibility.of (c : CommitConfig) (records : List Metacard) (force : Bool) : Visibility :=
  if force then immediate
  else if records.any fun m => c.isPrompt m.type.name then within c.promptWithin
  else scheduled

/-- What a commit waits for (`CommitOptions`). -/
structure CommitTerms where
  waitFlush : Bool
  waitSearcher : Bool
  /-- The changes are seen before they are stored for good. -/
  soft : Bool
  deriving DecidableEq, Inhabited

/-- The commit of a write that is found before it returns. -/
def CommitTerms.immediate : CommitTerms := ⟨true, true, true⟩

end CatalogSearch
