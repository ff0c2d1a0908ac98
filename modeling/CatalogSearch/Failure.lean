import CatalogSearch.Decimal.Notation
import CatalogSearch.Width

/-!
# Failures

Why a request is not answered, by cause.

- `RequestFault`: the request itself cannot be served.
- `QueryFault`: the search engine cannot be asked, or gives no answer.
- `MetacardFault`: a document and a record cannot be turned into each other.
- `Failure`: these together, the engine's refusal of a write, and the two defects.
- `Failure.message`, `Failure.cause?`: the words for them.
-/

namespace CatalogSearch

/-- The deepest level a filter may have (`MAX_FILTER_DEPTH`). -/
def maxFilterDepth : Nat := 64

/-- Why a request cannot be served. -/
inductive RequestFault where
  /-- The index of the first record is not positive. -/
  | startIndex (got : Int64)
  /-- The page size is no row count. -/
  | pageSize
  /-- The filter has too many levels. -/
  | filterTooDeep
  /-- The year of an instant cannot be written. -/
  | instantYear
  /-- A reason of the filter writer's own. -/
  | refused (reason : String)
  deriving DecidableEq

/-- The words for a fault of the request. -/
def RequestFault.message : RequestFault → String
  | startIndex got =>
    "Start index must be greater than 0, got " ++ intText got.toInt ++ "."
  | pageSize => "Page size is out of range: " ++ Width.tooLarge ++ "."
  | filterTooDeep => "Filter nesting exceeds " ++ intText maxFilterDepth ++ " levels."
  | instantYear =>
    "Temporal filter instant cannot be formatted: " ++
      "The year component cannot be formatted into the requested format.."
  | refused reason => reason

/-- What the engine was asked for. -/
inductive Inquiry where
  /-- Records. -/
  | search
  /-- The number of all records. -/
  | rowCount
  deriving DecidableEq

/-- The words for an inquiry that came to nothing. -/
def Inquiry.message : Inquiry → String
  | search => "Could not complete query."
  | rowCount => "Could not retrieve number of records."

/-- Why an inquiry came to nothing. -/
inductive QueryFault where
  /-- The schema has no field for a property. -/
  | noField (property : String)
  /-- The engine failed with these words. -/
  | engine (reason : String)
  /-- The engine counted nothing. -/
  | noCount
  /-- The engine counted more than a row count holds. -/
  | countTooLarge
  deriving DecidableEq

/-- The words for a cause. -/
def QueryFault.message : QueryFault → String
  | noField property => "No schema field found for property '" ++ property ++ "'."
  | engine reason => reason
  | noCount => "Probe returned no results."
  | countTooLarge => Width.tooLarge

/-- Why a document and a record cannot be turned into each other. -/
inductive MetacardFault where
  /-- The document does not name its type. -/
  | noType
  /-- The schema does not know the type. -/
  | unknownType (name : String)
  /-- Neither the type nor the schema knows the format of an attribute. -/
  | unknownFormat (name : String)
  /-- A reason of the schema's own. -/
  | refused (reason : String)
  deriving DecidableEq

/-- The words for a fault of a document or a record. -/
def MetacardFault.message : MetacardFault → String
  | noType => "Document carries no metacard type."
  | unknownType name => "Unknown metacard type '" ++ name ++ "'."
  | unknownFormat name => "No format is known for attribute '" ++ name ++ "'."
  | refused reason => reason

/-- A request that a correct caller never makes. -/
inductive Defect where
  /-- Batches of no element were asked for. -/
  | emptyBatches
  /-- An instant lies outside the calendar. -/
  | beyondCalendar
  deriving DecidableEq

/-- Why a request is not answered (`Error`). -/
inductive Failure where
  | invalidRequest (fault : RequestFault)
  | unsupportedQuery (inquiry : Inquiry) (fault : QueryFault)
  | metacardCreation (fault : MetacardFault)
  /-- The engine refused a write with these words. -/
  | backend (reason : String)
  /-- The caller broke the terms of the service. -/
  | defect (d : Defect)
  deriving DecidableEq

namespace Failure

/-- The words for a failure; a defect has none. -/
def message : Failure → String
  | invalidRequest fault => "Invalid request: " ++ fault.message
  | unsupportedQuery inquiry _ => inquiry.message
  | metacardCreation fault => "Metacard creation failed: " ++ fault.message
  | backend reason => "Backend error: " ++ reason
  | defect _ => ""

/-- The words for what lies behind a failed inquiry. -/
def cause? : Failure → Option String
  | unsupportedQuery _ fault => some fault.message
  | _ => none

end Failure

end CatalogSearch
