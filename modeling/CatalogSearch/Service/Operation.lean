import CatalogSearch.Service.Records
import CatalogSearch.Service.Search

/-!
# Operations of the service

- `Operation`: one thing a caller asks of the service.
- `Answer`: what it returns.
- `Service.run`: carries an operation out.
- `Service.runAll`: carries out operations one after the other, whatever became of those before.
-/

namespace CatalogSearch

/-- One thing a caller asks of the service. -/
inductive Operation where
  | search (r : Request)
  | plan (r : Request)
  | searchText (text : String)
  | fetch (ids : List String)
  | contentTypes
  | store (records : List Metacard) (force : Bool)
  | remove (field : String) (ids : List String) (force : Bool)
  | removeMatching (text : String)

/-- What an operation returns. -/
inductive Answer where
  | response (r : Response)
  | planned (q : PlannedQuery)
  | metacards (records : List Metacard)
  | contentTypes (types : List ContentType)
  | documents (docs : List Document)
  | done

namespace Service

/-- Carries an operation out. -/
def run (svc : Service) : Operation → ServiceM Answer
  | .search r => return .response (← svc.search r)
  | .plan r => return .planned (← svc.plan r)
  | .searchText text => return .metacards (← svc.searchText text)
  | .fetch ids => return .metacards (← svc.fetch ids)
  | .contentTypes => return .contentTypes (← svc.contentTypes)
  | .store records force => return .documents (← svc.store records force)
  | .remove field ids force => do
    svc.remove field ids force
    return .done
  | .removeMatching text => do
    removeMatching text
    return .done

/-- Carries out operations one after the other, whatever became of those before. -/
def runAll (svc : Service) : List Operation → Session → List (Except Failure Answer) × Session
  | [], s => ([], s)
  | op :: ops, s =>
    let (answer, s) := (svc.run op).run s
    let (answers, s) := svc.runAll ops s
    (answer :: answers, s)

end Service

end CatalogSearch
