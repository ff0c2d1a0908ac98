import CatalogSearch.Engine.Query
import CatalogSearch.Engine.Response
import CatalogSearch.Decimal.Reader
import CatalogSearch.Filter.Clause
import CatalogSearch.Response
import CatalogSearch.Schema.Basic
import CatalogSearch.Text.Blank

/-!
# Assembling results

The documents of an answer become records and hits.

- `Schema.metacards`, `Schema.hits`: all documents, or the failure of the first that has none.
- `Json.asNumber?`: a number, also in a text with blanks around it.
- `Annotations.addPartial`: the flag that the engine stopped early.
-/

namespace CatalogSearch

/-- The double of a number or of a text that spells one (`number`). -/
def Json.asNumber? : Json → Option Float
  | .int i => some (.ofInt i)
  | .float x => some x
  | .str s => Decimal.number? (Text.trim s)
  | _ => none

namespace Document

/-- The relevance that the engine reports, if it is a number. -/
def relevance? (doc : Document) : Option Float :=
  (doc.first? scoreField).bind Json.asNumber?

/-- The distance that the engine reports in kilometers, in meters, if it is a number. -/
def meters? (doc : Document) : Option Float :=
  ((doc.first? distanceField).bind Json.asNumber?).map (· * metersPerKilometer)

end Document

namespace Schema

/-- The record of a document with its scores (`create_hit`). -/
def hit (schema : Schema) (doc : Document) : Except MetacardFault Hit :=
  (schema.metacard doc).map fun m => ⟨m, doc.relevance?, doc.meters?⟩

/-- The records of documents, in order (`create_metacards`). -/
def metacards (schema : Schema) (docs : List Document) : Except MetacardFault (List Metacard) :=
  docs.mapM schema.metacard

/-- The hits of documents, in order (`create_hits`). -/
def hits (schema : Schema) (docs : List Document) : Except MetacardFault (List Hit) :=
  docs.mapM schema.hit

end Schema

/-- The member of a response header that tells whether the engine stopped early. -/
def partialHeader : String := "partialResults"

/-- Adds the flag that the engine stopped early, if the header says so
(`decode_partial_results`). -/
def Annotations.addPartial (r : EngineResponse) (a : Annotations) : Annotations :=
  match r.header.get? partialHeader with
  | some (.bool true) => a.insert partialResults (.flag true)
  | _ => a

end CatalogSearch
