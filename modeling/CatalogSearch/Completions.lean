import CatalogSearch.Engine.Query
import CatalogSearch.Engine.Response
import CatalogSearch.Request
import CatalogSearch.Response

/-!
# Completed words

A request may ask for completions of a text instead of records.

- `CompletionRequest.ofProperties?`: the request in the directives, if text, context and
  dictionary are all given as texts.
- `CompletionRequest.engineQuery`: the query for the completions.
- `Annotations.addCompletions`: the completions of an answer.
-/

namespace CatalogSearch

/-- A request for completions of a text (`SuggestionRequest`). -/
structure CompletionRequest where
  text : String
  /-- The context the words must belong to. -/
  context : String
  /-- The dictionary the words come from. -/
  dictionary : String
  /-- Whether the dictionary is built first, if anything is said about it. -/
  build : Option Bool
  deriving DecidableEq, Inhabited

namespace CompletionRequest

/-- The request for completions in the directives of a request (`from_properties`). -/
def ofProperties? (p : Properties) : Option CompletionRequest :=
  match p.text? Properties.completeText, p.text? Properties.completeContext,
    p.text? Properties.completeDictionary with
  | some text, some context, some dictionary =>
    some ⟨text, context, dictionary, p.flag? Properties.completeBuild⟩
  | _, _, _ => none

/-- The parameter with the text. -/
def textParam : String := "suggest.q"

/-- The parameter with the context. -/
def contextParam : String := "suggest.cfq"

/-- The parameter with the dictionary. -/
def dictionaryParam : String := "suggest.dictionary"

/-- The parameter that has the dictionary built. -/
def buildParam : String := "suggest.build"

/-- The query for the completions; it has no text of its own (`to_provider_query`). -/
def engineQuery (s : CompletionRequest) : EngineQuery :=
  let base : EngineQuery := { handler := some completionHandler }
  let asked := ((base.putParam textParam s.text).putParam
    contextParam s.context).putParam dictionaryParam s.dictionary
  match s.build with
  | some build => asked.putParam buildParam (if build then "true" else "false")
  | none => asked

end CompletionRequest

/-- Adds the completions of an answer, if it holds any list of them, dictionary after dictionary
(`decode_suggestions`). -/
def Annotations.addCompletions (r : EngineResponse) (a : Annotations) : Annotations :=
  match r.completions with
  | some groups =>
    let words := groups.flatMap (·.words)
    a.insert completionResult (.completions (words.map fun s => (s.payload, s.term)))
  | none => a

end CatalogSearch
