import CatalogSearch.Engine.Query
import CatalogSearch.Engine.Response
import CatalogSearch.Visibility

/-!
# Sessions with a scripted engine

A session is an engine whose answers to queries are laid down in advance, with everything that was
asked of it. Any sequence of answers and failures can be laid down, so whatever holds in every
session holds with every engine.

- `Call`: one thing asked of the engine.
- `Session`: the calls so far, the answers to come, and the documents that lookups find.
- `Session.ask`, `Session.lookup`, `Session.write`: the engine at work. Each adds its call, also
  when it fails.
-/

namespace CatalogSearch

/-- One thing asked of the engine (`BackendCall`). -/
inductive Call where
  /-- Answer a query. -/
  | query (q : EngineQuery)
  /-- Look documents up by identifier. -/
  | lookup (ids : List String)
  /-- Store documents, to be found within a time. -/
  | store (docs : List Document) (within : Option UInt32)
  /-- Store documents and commit. -/
  | storeAndCommit (docs : List Document) (terms : CommitTerms)
  /-- Remove documents by identifier. -/
  | remove (ids : List String)
  /-- Remove the documents that a query text matches. -/
  | removeMatching (text : String)
  /-- Commit all changes. -/
  | commit
  deriving Inhabited

/-- The query of a call that is one. -/
def Call.query? : Call → Option EngineQuery
  | query q => some q
  | _ => none

/-- An answer laid down for a query. -/
inductive Scripted where
  | respond (r : EngineResponse)
  | fail (reason : String)
  deriving Inhabited

/-- An engine with laid down answers and all that was asked of it (`ScriptedBackend`). -/
structure Session where
  /-- The calls so far, in order. -/
  calls : List Call := []
  /-- The answers to the next queries. -/
  script : List Scripted := []
  /-- The documents that lookups find, by identifier. -/
  documents : KeyMap Document := .empty
  lookupsFail : Bool := false
  writesFail : Bool := false
  /-- How many filters were put into the engine's words. -/
  filtersWritten : Nat := 0
  deriving Inhabited

namespace Session

/-- The words of a failed lookup. -/
def lookupReason : String := "Scripted lookup failure."

/-- The words of a failed write. -/
def writeReason : String := "Scripted write failure."

/-- The session with one more call. -/
def record (s : Session) (c : Call) : Session :=
  { s with calls := s.calls ++ [c] }

/-- Answers a query with the next answer laid down; without one nothing is found. -/
def ask (q : EngineQuery) : StateM Session (Except String EngineResponse) := fun s =>
  match s.script with
  | [] => (.ok (.ofDocuments [] 0), s.record (.query q))
  | .respond r :: rest => (.ok r, { s with script := rest }.record (.query q))
  | .fail reason :: rest => (.error reason, { s with script := rest }.record (.query q))

/-- Looks documents up; unknown identifiers are passed over. -/
def lookup (ids : List String) : StateM Session (Except String (List Document)) := fun s =>
  (if s.lookupsFail then .error lookupReason else .ok (ids.filterMap s.documents.get?),
    s.record (.lookup ids))

/-- Carries out a call that changes the stored documents. -/
def write (c : Call) : StateM Session (Except String Unit) := fun s =>
  (if s.writesFail then .error writeReason else .ok (), s.record c)

/-- Lays down one more answer. -/
def expect (s : Session) (answer : Scripted) : Session :=
  { s with script := s.script ++ [answer] }

/-- Makes a document known to lookups. -/
def stock (s : Session) (id : String) (doc : Document) : Session :=
  { s with documents := s.documents.insert id doc }

/-- The queries among the calls. -/
def queries (s : Session) : List EngineQuery :=
  s.calls.filterMap Call.query?

end Session

end CatalogSearch
