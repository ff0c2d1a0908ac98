import CatalogSearch.Text.Blank

/-!
# Configuration

- `SearchConfig`, `CommitConfig`, `Config`: the settings with their defaults.
- `PagingMode`: which page sizes ask for all records.
- `Config.normalize`: the names of types are trimmed, and each is kept once.
- `Config.fault?`: the first limit that is zero, or time that does not fit in 31 bits.
-/

namespace CatalogSearch

/-- Which page sizes ask for all records. -/
inductive PagingMode where
  /-- Negative ones. -/
  | standard
  /-- Negative ones and zero. -/
  | legacy
  deriving DecidableEq, Inhabited

/-- A page size asks for all records (`wants_all_records`). -/
def PagingMode.wantsAll (mode : PagingMode) (pageSize : Int64) : Bool :=
  match mode with
  | standard => pageSize < 0
  | legacy => pageSize < 1

/-- The settings of searches (`Search`). -/
structure SearchConfig where
  /-- The milliseconds that the engine may take; zero is no bound. -/
  timeAllowed : UInt32 := 0
  /-- A page size of zero asks for all records. -/
  zeroMeansAll : Bool := false
  /-- How many records are looked up at a time. -/
  lookupLimit : Nat := 100
  /-- How many identifiers a query text may name. -/
  clauseLimit : Nat := 1024
  deriving DecidableEq, Inhabited

/-- Which page sizes ask for all records. -/
def SearchConfig.pagingMode (c : SearchConfig) : PagingMode :=
  if c.zeroMeansAll then .legacy else .standard

/-- The settings of writes (`Commit`). -/
structure CommitConfig where
  /-- The types whose records are found soon after a write. -/
  promptTypes : List String := []
  /-- The milliseconds within which they are found. -/
  promptWithin : UInt32 := 1000
  deriving DecidableEq, Inhabited

/-- The records of a type are found soon after a write (`is_nrt_type`). -/
def CommitConfig.isPrompt (c : CommitConfig) (type : String) : Bool :=
  c.promptTypes.contains type

/-- The settings of the service. -/
structure Config where
  search : SearchConfig := {}
  commit : CommitConfig := {}
  deriving DecidableEq, Inhabited

namespace Config

/-- Adds a name without its blanks to names that are known, unless it is empty or known. -/
def addName (known : List String) (name : String) : List String :=
  let name := Text.trim name
  if name.isEmpty || known.contains name then known else known ++ [name]

/-- Trims the names of types and keeps each once. -/
def normalize (c : Config) : Config :=
  { c with commit := { c.commit with promptTypes := c.commit.promptTypes.foldl addName [] } }

/-- The largest number of 31 bits. -/
def maxTime : UInt32 := 2147483647

/-- A setting that cannot be used. -/
inductive Fault where
  | noLookupLimit
  | noClauseLimit
  | timeAllowed
  | promptWithin
  deriving DecidableEq

namespace Fault

/-- The setting. -/
def key : Fault → String
  | noLookupLimit => "search.get_by_id_limit"
  | noClauseLimit => "search.max_boolean_clauses"
  | timeAllowed => "search.time_allowed_ms"
  | promptWithin => "commit.nrt_commit_within_ms"

/-- What the setting must be. -/
def requirement : Fault → String
  | noLookupLimit | noClauseLimit => "must be greater than zero."
  | timeAllowed | promptWithin => "must fit in a signed 32-bit integer."

/-- The words for a setting that cannot be used. -/
def message (f : Fault) : String :=
  "Quarry config key " ++ f.key ++ " " ++ f.requirement

end Fault

/-- The first setting that cannot be used, if there is one (`validate`). -/
def fault? (c : Config) : Option Fault :=
  if c.search.lookupLimit = 0 then some .noLookupLimit
  else if c.search.clauseLimit = 0 then some .noClauseLimit
  else if maxTime < c.search.timeAllowed then some .timeAllowed
  else if maxTime < c.commit.promptWithin then some .promptWithin
  else none

end Config

end CatalogSearch
