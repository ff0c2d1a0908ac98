import CatalogSearch.Engine.Response
import CatalogSearch.Response

/-!
# Corrected spelling

The engine may offer corrected query texts; the one with the most hits is tried.

- `Collation.better`, `EngineResponse.mostHits?`: the earliest of those with the most hits.
- `sortedSet`: texts in increasing order, each once.
- `Annotations.addCorrections`: the words of a correction that was adopted.
-/

namespace CatalogSearch

/-- The collation to keep of one found so far and the next: only more hits replace it. -/
def Collation.better : Option Collation → Collation → Option Collation
  | none, next => some next
  | some best, next => if best.hits < next.hits then some next else some best

/-- The collation with the most hits, the earliest of several (`best_collation`). -/
def EngineResponse.mostHits? (r : EngineResponse) : Option Collation :=
  match r.spelling with
  | some s => s.collations.foldl Collation.better none
  | none => none

/-- The texts in increasing order, each once. -/
def sortedSet (texts : List String) : List String :=
  (KeyMap.ofList (texts.map fun t => (t, ()))).keys

/-- Adds the corrected words and what they were corrected to (`record_corrections`). -/
def Annotations.addCorrections (c : Collation) (a : Annotations) : Annotations :=
  (a.insert didYouMean (.terms (sortedSet (c.corrections.map (·.misspelled))))).insert
    showingResultsFor (.terms (sortedSet (c.corrections.map (·.correction))))

end CatalogSearch
