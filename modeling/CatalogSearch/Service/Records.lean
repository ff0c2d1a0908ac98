import CatalogSearch.ContentTypes
import CatalogSearch.Identifiers
import CatalogSearch.Service.Basic

/-!
# Records by identifier, and writes

- `Service.fetch`: records by identifier, looked up in batches.
- `Service.contentTypes`: the kinds of content in the catalog.
- `Service.store`: records are written all together, or none of them.
- `Service.remove`, `Service.removeMatching`: records are removed by identifier or by query text.
-/

namespace CatalogSearch

namespace Service

/-- The batches of a list; there are none of no element. -/
def batched {α : Type} (limit : Nat) (xs : List α) : ServiceM (List (List α)) :=
  if limit = 0 then throw (.defect .emptyBatches) else pure (batches limit xs)

/-- The records with these identifiers, in order, each once; unknown ones are passed over
(`get_ids`). -/
def fetch (svc : Service) (ids : List String) : ServiceM (List Metacard) := do
  let groups ← batched svc.config.search.lookupLimit (distinct ids)
  let pages ← groups.mapM ServiceM.lookup
  .ofFault (svc.schema.metacards pages.flatten)

/-- The kinds of content in the catalog, in order; none if the schema has no fields for them or the
engine fails (`content_types`). -/
def contentTypes (svc : Service) : ServiceM (List ContentType) :=
  match contentTypeQuery? svc.schema with
  | none => return []
  | some q => fun s =>
    match Session.ask q s with
    | (.ok r, s) => (.ok r.contentTypes, s)
    | (.error _, s) => (.ok [], s)

/-- The write that makes documents found in time. -/
def storeCall (docs : List Document) : Visibility → Call
  | .scheduled => .store docs none
  | .within time => .store docs (some time)
  | .immediate => .storeAndCommit docs .immediate

/-- Writes records and returns the documents that were sent (`add`). Without records nothing is
sent. -/
def store (svc : Service) (records : List Metacard) (force : Bool) : ServiceM (List Document) :=
  if records.isEmpty then return []
  else do
    let docs ← ServiceM.ofFault (records.mapM svc.schema.document)
    ServiceM.write (storeCall docs (.of svc.config.commit records force))
    return docs

/-- The calls that remove identifiers: the engine knows its own identifiers directly, and those in
any other field through query texts. -/
def removeCalls (svc : Service) (field : String) (ids : List String) : ServiceM (List Call) :=
  if field = Metacard.idAttribute then return [.remove ids]
  else do
    let groups ← batched svc.config.search.clauseLimit ids
    return groups.map fun group => .removeMatching (anyIdentifier field group)

/-- Removes the records whose field has one of the identifiers (`delete_by_ids`). Without
identifiers nothing is sent, not even a forced commit. -/
def remove (svc : Service) (field : String) (ids : List String) (force : Bool) :
    ServiceM Unit :=
  if ids.isEmpty then return ()
  else do
    let calls ← svc.removeCalls field ids
    calls.forM ServiceM.write
    if force then ServiceM.write .commit

/-- Removes the records that a query text matches (`delete_by_query`). -/
def removeMatching (text : String) : ServiceM Unit :=
  ServiceM.write (.removeMatching text)

end Service

end CatalogSearch
