import CatalogSearch.Config.Basic
import CatalogSearch.Json.Coded

/-!
# Written configuration

The written form of the settings: sections with named settings, where whatever is left out has its
default. A section may also list its settings by position.

- The instances of `Coded` for `SearchConfig`, `CommitConfig` and `Config`.
-/

namespace CatalogSearch

/-- A natural number within 64 bits. -/
def Json.asLimit? (j : Json) : Option Nat :=
  (j.asInt?.bind Width.toUInt64?).map UInt64.toNat

/-- A limit of the settings; it is written as a whole number. -/
instance limitCoded : Coded Nat := ⟨fun n => .int n, Json.asLimit?⟩

instance : Coded SearchConfig where
  toJson c := object
    [("time_allowed_ms", toJson c.timeAllowed),
      ("zero_page_size_compatibility", toJson c.zeroMeansAll),
      ("get_by_id_limit", toJson c.lookupLimit), ("max_boolean_clauses", toJson c.clauseLimit)]
  ofJson? := record? do
    let preset : SearchConfig := {}
    return {
      timeAllowed := ← defaulted "time_allowed_ms" preset.timeAllowed
      zeroMeansAll := ← defaulted "zero_page_size_compatibility" preset.zeroMeansAll
      lookupLimit := ← defaulted "get_by_id_limit" preset.lookupLimit
      clauseLimit := ← defaulted "max_boolean_clauses" preset.clauseLimit }

instance : Coded CommitConfig where
  toJson c := object
    [("nrt_metacard_types", toJson c.promptTypes),
      ("nrt_commit_within_ms", toJson c.promptWithin)]
  ofJson? := record? do
    let preset : CommitConfig := {}
    return {
      promptTypes := ← defaulted "nrt_metacard_types" preset.promptTypes
      promptWithin := ← defaulted "nrt_commit_within_ms" preset.promptWithin }

instance : Coded Config where
  toJson c := object [("search", toJson c.search), ("commit", toJson c.commit)]
  ofJson? := record? do
    return { search := ← defaulted "search" {}, commit := ← defaulted "commit" {} }

end CatalogSearch
