import CatalogSearch.Proofs.Annotations
import CatalogSearch.Proofs.Service.Routing
import CatalogSearch.Schema.Resource

/-!
# One answer behind every response

Up to three answers come in while a request is served. The response is made of one of
them: the last, unless that belongs to a second pass that shows no more documents than
the first.

- `Service.Requeried`: a second pass was made, with both its answers.
- `Service.Authority`: the answer that counts, and the correction that came with it.
- `Service.Derived`: a response that is made of one answer.
- `Service.search_derived`: every response is made of the answer that counts.
-/

namespace CatalogSearch

namespace Service

open ServiceM

variable {config : Config} {schema : Schema} {r : Request} {s : Session}

/-! ## The answer that counts -/

/-- The request is searched: it asks for no completions and is not looked up. -/
def IsSearch (r : Request) : Prop :=
  (∀ c, ¬ r.Completes c) ∧ ¬ IsDirect r

/-- A second pass was made: the request is searched with its spelling checked, the first
pass was answered by `first` and offered `best`, and that was answered by `second`. -/
structure Requeried (svc : Service) (r : Request) (s : Session) (asked : List EngineQuery)
    (first second : EngineResponse) (best : Collation) : Prop where
  search : IsSearch r
  checks : r.Sets Properties.spellcheck
  queries : ∃ q, asked = svc.probes r ++ [q, q.retried best]
  answered : s.reply (svc.probes r).length = .ok first
  offer : best.IsMost first.collations
  retried : s.reply ((svc.probes r).length + 1) = .ok second

/-- The answer that counts after the queries `asked`, and the correction adopted with it. -/
inductive Authority (svc : Service) (r : Request) (s : Session) (asked : List EngineQuery) :
    EngineResponse → Option Collation → Prop where
  /-- Without a second pass it is the answer to the last query. -/
  | last {answer} (hone : ∀ first second best, ¬ Requeried svc r s asked first second best)
    (hpos : asked ≠ []) (h : s.reply (asked.length - 1) = .ok answer) :
    Authority svc r s asked answer none
  /-- A second answer that shows no more documents does not count. -/
  | first {first second best} (h : Requeried svc r s asked first second best)
    (hle : second.docCount ≤ first.docCount) : Authority svc r s asked first none
  /-- One that shows more counts, and its correction is adopted. -/
  | second {first second best} (h : Requeried svc r s asked first second best)
    (hlt : first.docCount < second.docCount) : Authority svc r s asked second (some best)

/-- The answer that counts came in. -/
theorem Authority.received {svc : Service} {asked : List EngineQuery} {answer : EngineResponse}
    {adopted : Option Collation} (h : Authority svc r s asked answer adopted) :
    ∃ n, s.reply n = .ok answer := by
  cases h with
  | last _ _ h => exact ⟨_, h⟩
  | first h _ => exact ⟨_, h.answered⟩
  | second h _ => exact ⟨_, h.retried⟩

/-! ## Responses made of one answer -/

/-- The response is made of `answer` and the adopted correction: its hits are those of the
page in order, and its annotations are what the stages note, each under its own name. -/
structure Derived (schema : Schema) (r : Request) (answer : EngineResponse)
    (adopted : Option Collation) (response : Response) : Prop where
  withoutPage : answer.results = none → response.hits = [] ∧ response.total = 0
  page : ∀ page, answer.results = some page →
    schema.hits page.docs = .ok response.hits ∧ response.total = page.found
  facets : ∀ x, response.annotations.get? Annotations.facetResults = some x ↔
    IsSearch r ∧ (∃ facet, r.properties.get? Properties.facet = some (.termFacet facet)) ∧
      answer.facetFields ≠ [] ∧
      x = .facets (answer.facetFields.map (CountedField.result schema))
  completions : ∀ x, response.annotations.get? Annotations.completionResult = some x ↔
    ∃ groups, answer.completions = some groups ∧
      x = .completions ((groups.flatMap (·.words)).map fun w => (w.payload, w.term))
  stoppedEarly : ∀ x, response.annotations.get? Annotations.partialResults = some x ↔
    answer.header.get? partialHeader = some (.bool true) ∧ x = .flag true
  misspelled : ∀ x, response.annotations.get? Annotations.didYouMean = some x ↔
    ∃ best : Collation, adopted = some best ∧
      x = .terms (sortedSet (best.corrections.map (·.misspelled)))
  corrected : ∀ x, response.annotations.get? Annotations.showingResultsFor = some x ↔
    ∃ best : Collation, adopted = some best ∧
      x = .terms (sortedSet (best.corrections.map (·.correction)))
  others : ∀ name, name ∉ [Annotations.facetResults, Annotations.completionResult,
      Annotations.partialResults, Annotations.didYouMean, Annotations.showingResultsFor] →
    response.annotations.get? name = none

/-- The total of a response is that of its answer. -/
theorem Derived.total_eq {answer : EngineResponse} {adopted : Option Collation}
    {response : Response} (h : Derived schema r answer adopted response) :
    response.total = answer.found := by
  unfold EngineResponse.found
  cases hresults : answer.results with
  | none => exact (h.withoutPage hresults).2
  | some page => exact (h.page page hresults).2

/-- The annotations that a search starts its last stages with: the words of the adopted
correction, or nothing. -/
def adoptedNotes : Option Collation → Annotations
  | none => .empty
  | some best => Annotations.addCorrections best .empty

theorem get?_adoptedNotes (adopted : Option Collation) (name : String) :
    (adoptedNotes adopted).get? name =
      if name = Annotations.showingResultsFor then
        adopted.map fun best => .terms (sortedSet (best.corrections.map (·.correction)))
      else if name = Annotations.didYouMean then
        adopted.map fun best => .terms (sortedSet (best.corrections.map (·.misspelled)))
      else none := by
  cases adopted with
  | none =>
    split
    · rfl
    · split <;> rfl
  | some best =>
    unfold adoptedNotes Annotations.addCorrections
    rw [KeyMap.get?_insert, KeyMap.get?_insert]
    rfl

/-- What a response holds: the hits and the total of the page, and the notes of all stages. -/
theorem responded_eq_ok {svc : Service} {answer : EngineResponse} {notes : Annotations}
    {response : Response} (h : svc.responded answer notes = .ok response) :
    response.annotations = (notes.addCompletions answer).addPartial answer ∧
      (answer.results = none → response.hits = [] ∧ response.total = 0) ∧
      ∀ page, answer.results = some page →
        svc.schema.hits page.docs = .ok response.hits ∧ response.total = page.found := by
  unfold responded at h
  cases hresults : answer.results with
  | none =>
    rw [hresults] at h
    cases h
    refine ⟨rfl, fun _ => ⟨rfl, rfl⟩, ?_⟩
    rintro page ⟨⟩
  | some page =>
    rw [hresults] at h
    dsimp only at h
    cases hhits : svc.schema.hits page.docs with
    | error fault =>
      rw [hhits] at h
      cases h
    | ok hits =>
      rw [hhits] at h
      cases h
      refine ⟨rfl, ?_, ?_⟩
      · rintro ⟨⟩
      · rintro page' ⟨⟩
        exact ⟨hhits, rfl⟩

/-- The annotations of a response, name by name: every stage writes under its own. -/
theorem get?_annotations {answer : EngineResponse} {adopted : Option Collation}
    {counted : Bool} {schema : Schema} (name : String) :
    (((if counted then (adoptedNotes adopted).addFacets schema answer
        else adoptedNotes adopted).addCompletions answer).addPartial answer).get? name =
      if name = Annotations.partialResults then answer.notedPartial
      else if name = Annotations.completionResult then answer.notedCompletions
      else if name = Annotations.facetResults then
        if counted then answer.notedFacets schema else none
      else (adoptedNotes adopted).get? name := by
  have hfacets : (if counted then (adoptedNotes adopted).addFacets schema answer
      else adoptedNotes adopted).get? name =
      if name = Annotations.facetResults then
        (if counted then answer.notedFacets schema else none).or ((adoptedNotes adopted).get? name)
      else (adoptedNotes adopted).get? name := by
    cases counted with
    | true => exact Annotations.get?_addFacets schema answer _ name
    | false =>
      show (adoptedNotes adopted).get? name = if name = _ then none.or _ else _
      rw [Option.none_or, ite_self]
  -- the words of a correction stand under two other names, so no stage writes over them
  have hfree : ∀ key, key ≠ Annotations.showingResultsFor → key ≠ Annotations.didYouMean →
      (adoptedNotes adopted).get? key = none := by
    intro key h₁ h₂
    rw [get?_adoptedNotes, if_neg h₁, if_neg h₂]
  rw [Annotations.get?_addPartial, Annotations.get?_addCompletions, hfacets]
  by_cases hp : name = Annotations.partialResults
  · subst hp
    rw [if_pos rfl, if_pos rfl, if_neg (by decide), if_neg (by decide),
      hfree _ (by decide) (by decide), Option.or_none]
  rw [if_neg hp, if_neg hp]
  by_cases hc : name = Annotations.completionResult
  · subst hc
    rw [if_pos rfl, if_pos rfl, if_neg (by decide), hfree _ (by decide) (by decide),
      Option.or_none]
  rw [if_neg hc, if_neg hc]
  by_cases hf : name = Annotations.facetResults
  · subst hf
    rw [if_pos rfl, if_pos rfl, hfree _ (by decide) (by decide), Option.or_none]
  rw [if_neg hf, if_neg hf]

/-- What is made of an answer, with its counts if the request is searched and wants them,
is derived from it. -/
theorem derived_of_responded {svc : Service} {answer : EngineResponse}
    {adopted : Option Collation} {counted : Bool} {response : Response}
    (hcounted : counted = true ↔ IsSearch r ∧
      ∃ facet, r.properties.get? Properties.facet = some (.termFacet facet))
    (h : svc.responded answer (if counted then (adoptedNotes adopted).addFacets svc.schema answer
      else adoptedNotes adopted) = .ok response) :
    Derived svc.schema r answer adopted response := by
  obtain ⟨hnotes, hnone, hpage⟩ := responded_eq_ok h
  refine ⟨hnone, hpage, fun x => ?_, fun x => ?_, fun x => ?_, fun x => ?_, fun x => ?_, ?_⟩
  · -- facets
    rw [hnotes, get?_annotations, if_neg (by decide), if_neg (by decide), if_pos rfl]
    by_cases hc : counted = true
    · obtain ⟨hsearch, hfacet⟩ := hcounted.mp hc
      rw [if_pos hc, EngineResponse.notedFacets_eq_some_iff]
      exact ⟨fun hx => ⟨hsearch, hfacet, hx⟩, fun hx => hx.2.2⟩
    · rw [if_neg hc]
      constructor
      · rintro ⟨⟩
      · rintro ⟨hsearch, hfacet, -⟩
        exact absurd (hcounted.mpr ⟨hsearch, hfacet⟩) hc
  · -- completions
    rw [hnotes, get?_annotations, if_neg (by decide), if_pos rfl]
    exact EngineResponse.notedCompletions_eq_some_iff
  · -- an early stop
    rw [hnotes, get?_annotations, if_pos rfl]
    exact EngineResponse.notedPartial_eq_some_iff
  · -- the misspelled words
    rw [hnotes, get?_annotations, if_neg (by decide), if_neg (by decide), if_neg (by decide),
      get?_adoptedNotes, if_neg (by decide), if_pos rfl, Option.map_eq_some_iff]
    exact exists_congr fun best => and_congr_right fun _ => eq_comm
  · -- what they were corrected to
    rw [hnotes, get?_annotations, if_neg (by decide), if_neg (by decide), if_neg (by decide),
      get?_adoptedNotes, if_pos rfl, Option.map_eq_some_iff]
    exact exists_congr fun best => and_congr_right fun _ => eq_comm
  · intro name hname
    simp only [List.mem_cons, List.not_mem_nil, or_false, not_or] at hname
    obtain ⟨hf, hc, hp, hd, hs⟩ := hname
    rw [hnotes, get?_annotations, if_neg hp, if_neg hc, if_neg hf, get?_adoptedNotes, if_neg hs,
      if_neg hd]

/-! ## Every response -/

theorem searched_bind_eq_ok {reply : Except String EngineResponse}
    {next : EngineResponse → Except Failure Response} {response : Response}
    (h : (searched reply).bind next = .ok response) :
    ∃ answer, reply = .ok answer ∧ next answer = .ok response := by
  cases reply with
  | error reason => cases h
  | ok answer => exact ⟨answer, rfl, h⟩

/-- Outside a search nothing is counted. -/
theorem derived_of_not_isSearch {svc : Service} {answer : EngineResponse} {response : Response}
    (hno : ¬ IsSearch r) (h : svc.responded answer .empty = .ok response) :
    Derived svc.schema r answer none response := by
  have hcounted : false = true ↔ IsSearch r ∧
      ∃ facet, r.properties.get? Properties.facet = some (.termFacet facet) := by
    constructor
    · rintro ⟨⟩
    · rintro ⟨hsearch, -⟩
      exact absurd hsearch hno
  exact derived_of_responded hcounted h

/-- The route of a request that is not searched asks its query last, and its answer counts. -/
theorem derived_of_answered {svc : Service} (before : List EngineQuery) {q : EngineQuery}
    {response : Response} (hno : ¬ IsSearch r)
    (h : (searched (s.reply before.length)).bind (fun answer => svc.responded answer .empty) =
      .ok response) :
    ∃ answer adopted, Authority svc r s (before ++ [q]) answer adopted ∧
      Derived svc.schema r answer adopted response := by
  obtain ⟨answer, hreply, hresponded⟩ := searched_bind_eq_ok h
  refine ⟨answer, none, ?_, derived_of_not_isSearch hno hresponded⟩
  refine .last (fun first second best hq => hno hq.search) ?_ ?_
  · exact List.append_ne_nil_of_right_ne_nil before (List.cons_ne_nil q [])
  · rw [List.length_append, List.length_singleton, Nat.add_sub_cancel]
    exact hreply

/-- The passes of a search that yields an answer tell which answer counts. -/
theorem authority_of_passes {svc : Service} {q : EngineQuery} {asked : List EngineQuery}
    {answer : EngineResponse} {notes : Annotations} (hsearch : IsSearch r)
    (h : Passes q .empty (checksSpelling r) (s.reply (svc.probes r).length)
      (s.reply ((svc.probes r).length + 1)) asked (.ok (answer, notes))) :
    ∃ adopted, notes = adoptedNotes adopted ∧
      Authority svc r s (svc.probes r ++ asked) answer adopted := by
  generalize hcheck : checksSpelling r = check at h
  generalize hfirst : s.reply (svc.probes r).length = first at h
  generalize hsecond : s.reply ((svc.probes r).length + 1) = second at h
  have hchecks : check = true → r.Sets Properties.spellcheck :=
    fun htrue => Properties.flag?_getD_iff.mp (hcheck.trans htrue)
  cases h with
  | once _ =>
    refine ⟨none, rfl, .last ?_ ?_ ?_⟩
    · -- one query is not two
      intro first second best hq
      obtain ⟨q', hqueries⟩ := hq.queries
      cases List.append_cancel_left hqueries
    · exact List.append_ne_nil_of_right_ne_nil _ (List.cons_ne_nil _ [])
    · rw [List.length_append, List.length_singleton, Nat.add_sub_cancel]
      exact hfirst
  | kept hbest hle =>
    have hmost := EngineResponse.isMost_of_mostHits? hbest
    exact ⟨none, rfl, .first ⟨hsearch, hchecks rfl, ⟨_, rfl⟩, hfirst, hmost, hsecond⟩ hle⟩
  | adopted hbest hlt =>
    have hmost := EngineResponse.isMost_of_mostHits? hbest
    exact ⟨some _, rfl, .second ⟨hsearch, hchecks rfl, ⟨_, rfl⟩, hfirst, hmost, hsecond⟩ hlt⟩

/-- A search counts values iff its directives hold a facet. -/
theorem counts_iff {schema : Schema} {q : EngineQuery} :
    (q.withFacets schema r.properties).2 = true ↔
      ∃ facet, r.properties.get? Properties.facet = some (.termFacet facet) := by
  unfold EngineQuery.withFacets
  cases hfacet : r.properties.termFacet? Properties.facet with
  | some facet => exact ⟨fun _ => ⟨facet, Properties.termFacet?_eq_some_iff.mp hfacet⟩, fun _ => rfl⟩
  | none =>
    constructor
    · rintro ⟨⟩
    · rintro ⟨facet, h⟩
      rw [Properties.termFacet?_eq_some_iff.mpr h] at hfacet
      cases hfacet

/-- **One answer.** A response is made of the one answer that counts, and of the correction
that was adopted with it. -/
theorem search_derived (config : Config) (schema : Schema) (r : Request) (s after : Session)
    (response : Response)
    (h : (search { config, schema } r).run s = (.ok response, after)) :
    ∃ asked answer adopted, after.calls = s.calls ++ asked.map Call.query ∧
      Authority { config, schema } r s asked answer adopted ∧
      Derived schema r answer adopted response := by
  obtain ⟨asked, out, hrouted, hrun⟩ := search_runs { config, schema } r s
  have hcalls := hrun.asks.calls
  have hout := hrun.outcome
  rw [h] at hcalls hout
  refine ⟨asked, ?_⟩
  -- a route that comes to a response says which of its queries was asked last
  cases hrouted with
  | refused _ => cases hout
  | completed _ hc =>
    have hno : ¬ IsSearch r := fun hsearch => hsearch.1 _ hc
    obtain ⟨answer, adopted, hauthority⟩ :=
      derived_of_answered [] hno hout.symm
    exact ⟨answer, adopted, hcalls, hauthority⟩
  | unplanned _ _ _ => cases hout
  | lookedUp _ _ hp hl =>
    obtain ⟨text, -, -, -, hdirect⟩ := planned_text hp
    -- the verdict in the plan is that on the filter, so this route is no search
    have hno : ¬ IsSearch r := fun hsearch => hsearch.2 (hdirect.mp hl)
    obtain ⟨answer, adopted, hauthority⟩ := derived_of_answered _ hno hout.symm
    exact ⟨answer, adopted, hcalls, hauthority⟩
  | @counted _ hc p hp hl passes result hpasses =>
    obtain ⟨text, -, -, -, hdirect⟩ := planned_text hp
    have hsearch : IsSearch r := ⟨hc, fun hd => hl (hdirect.mpr hd)⟩
    cases result with
    | error failure => cases hout
    | ok x =>
      obtain ⟨answer, notes⟩ := x
      obtain ⟨adopted, rfl, hauthority⟩ := authority_of_passes hsearch hpasses
      refine ⟨answer, adopted, hcalls, hauthority, derived_of_responded ?_ hout.symm⟩
      exact counts_iff.trans ⟨fun hfacet => ⟨hsearch, hfacet⟩, fun hx => hx.2⟩

/-- A search for a misspelled title, with its spelling checked. -/
def misspelledRequest : Request where
  filter := .test Resource.title (.comparison .equal (.text "helo"))
  properties := KeyMap.empty.insert Properties.spellcheck (.flag true)

/-- Two answers are laid down, and nothing is found after them. -/
theorem reply_misspelledSession {second answer : EngineResponse} {n : Nat}
    (h : (misspelledSession second).reply n = .ok answer) :
    answer = offeringAnswer ∨ answer = second ∨ answer = .ofDocuments [] 0 := by
  match n with
  | 0 => exact .inl (Except.ok.inj h).symm
  | 1 => exact .inr (.inl (Except.ok.inj h).symm)
  | n + 2 => exact .inr (.inr (Except.ok.inj h).symm)

/-- A correction that finds two documents for one is adopted, and one that finds as many is not. -/
theorem search_derived_misspelled :
    let svc : Service := { config := {}, schema := Resource.schema.schema }
    (∃ response after asked best,
      (svc.search misspelledRequest).run (misspelledSession longerAnswer) =
          (.ok response, after) ∧
        after.calls = (misspelledSession longerAnswer).calls ++ asked.map Call.query ∧
        Authority svc misspelledRequest (misspelledSession longerAnswer) asked longerAnswer
          (some best) ∧
        Derived svc.schema misspelledRequest longerAnswer (some best) response) ∧
    ∃ response after asked,
      (svc.search misspelledRequest).run (misspelledSession wideAnswer) = (.ok response, after) ∧
        after.calls = (misspelledSession wideAnswer).calls ++ asked.map Call.query ∧
        Authority svc misspelledRequest (misspelledSession wideAnswer) asked offeringAnswer none ∧
        Derived svc.schema misspelledRequest offeringAnswer none response := by
  intro svc
  constructor
  · obtain ⟨response, after, h, htotal, hwords⟩ : ∃ response after,
        (svc.search misspelledRequest).run (misspelledSession longerAnswer) =
          (.ok response, after) ∧ response.total = 2 ∧
        response.annotations.get? Annotations.didYouMean = some (.terms ["helo"]) :=
      ⟨_, _, rfl, rfl, rfl⟩
    obtain ⟨asked, answer, adopted, hcalls, hauthority, hderived⟩ :=
      search_derived {} Resource.schema.schema misspelledRequest _ after response h
    obtain ⟨best, rfl, -⟩ := (hderived.misspelled _).mp hwords
    obtain ⟨n, hreply⟩ := hauthority.received
    -- the other answers have other totals
    have hfound : answer.found = 2 := hderived.total_eq.symm.trans htotal
    rcases reply_misspelledSession hreply with rfl | rfl | rfl
    · exact absurd hfound (by decide)
    · exact ⟨response, after, asked, best, h, hcalls, hauthority, hderived⟩
    · exact absurd hfound (by decide)
  · obtain ⟨response, after, h, htotal, hwords⟩ : ∃ response after,
        (svc.search misspelledRequest).run (misspelledSession wideAnswer) =
          (.ok response, after) ∧ response.total = 12 ∧
        response.annotations.get? Annotations.didYouMean = none :=
      ⟨_, _, rfl, rfl, rfl⟩
    obtain ⟨asked, answer, adopted, hcalls, hauthority, hderived⟩ :=
      search_derived {} Resource.schema.schema misspelledRequest _ after response h
    cases adopted with
    | some best =>
      have hadopted := (hderived.misspelled _).mpr ⟨best, rfl, rfl⟩
      cases hwords.symm.trans hadopted
    | none =>
      obtain ⟨n, hreply⟩ := hauthority.received
      have hfound : answer.found = 12 := hderived.total_eq.symm.trans htotal
      rcases reply_misspelledSession hreply with rfl | rfl | rfl
      · exact ⟨response, after, asked, h, hcalls, hauthority, hderived⟩
      · exact absurd hfound (by decide)
      · exact absurd hfound (by decide)

end Service

end CatalogSearch
