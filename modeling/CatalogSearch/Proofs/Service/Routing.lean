import CatalogSearch.Proofs.Service.Planning
import CatalogSearch.Proofs.Service.Spelling

/-!
# Routes of a request

A request is refused, or completed, or planned; a planned request is looked up or
searched. Which route it takes is decided by its directives, by the verdict on its
filter and by whether it can be planned.

- `Request.Completes`, `Request.Sets`: what the directives of a request say.
- `Service.Routed`: the routes, each with the queries it asks and what comes of it.
- `Service.search_runs`: serving a request takes one of the routes.
- `Service.search_routing`: the queries of every request, told route by route.
-/

namespace CatalogSearch

/-! ## What the directives say -/

namespace Properties

theorem text?_eq_some_iff {p : Properties} {name s : String} :
    p.text? name = some s ↔ p.get? name = some (.text s) := by
  unfold text?
  constructor
  · intro h
    split at h
    · next heq => rw [heq, Option.some.inj h]
    · cases h
  · intro h
    rw [h]

theorem flag?_getD_iff {p : Properties} {name : String} :
    (p.flag? name).getD false = true ↔ p.get? name = some (.flag true) := by
  unfold flag?
  constructor
  · intro h
    split at h
    · next b heq =>
      rw [heq, show b = true from h]
    · cases h
  · intro h
    rw [h]
    rfl

theorem termFacet?_eq_some_iff {p : Properties} {name : String} {facet : TermFacet} :
    p.termFacet? name = some facet ↔ p.get? name = some (.termFacet facet) := by
  unfold termFacet?
  constructor
  · intro h
    split at h
    · next heq => rw [heq, Option.some.inj h]
    · cases h
  · intro h
    rw [h]

end Properties

namespace Request

/-- The directives ask for completions: text, context and dictionary are all texts. -/
structure Completes (r : Request) (c : CompletionRequest) : Prop where
  text : r.properties.get? Properties.completeText = some (.text c.text)
  context : r.properties.get? Properties.completeContext = some (.text c.context)
  dictionary : r.properties.get? Properties.completeDictionary = some (.text c.dictionary)
  build : c.build = r.properties.flag? Properties.completeBuild

/-- The directive of this name is the flag `true`. -/
def Sets (r : Request) (name : String) : Prop :=
  r.properties.get? name = some (.flag true)

/-- A completion is read off the directives iff they ask for it. -/
theorem completes_iff {r : Request} {c : CompletionRequest} :
    r.Completes c ↔ CompletionRequest.ofProperties? r.properties = some c := by
  constructor
  · intro h
    unfold CompletionRequest.ofProperties?
    rw [Properties.text?_eq_some_iff.mpr h.text, Properties.text?_eq_some_iff.mpr h.context,
      Properties.text?_eq_some_iff.mpr h.dictionary, ← h.build]
  · intro h
    unfold CompletionRequest.ofProperties? at h
    split at h
    · next ht hc hd =>
      cases h
      exact ⟨Properties.text?_eq_some_iff.mp ht, Properties.text?_eq_some_iff.mp hc,
        Properties.text?_eq_some_iff.mp hd, rfl⟩
    · cases h

end Request

namespace Service

open ServiceM

/-! ## Answers become responses -/

/-- The response that an answer becomes, or the fault of its first bad document. -/
def responded (svc : Service) (answer : EngineResponse) (notes : Annotations) :
    Except Failure Response :=
  let notes := (notes.addCompletions answer).addPartial answer
  match answer.results with
  | none => .ok ⟨[], 0, notes⟩
  | some page =>
    ((svc.schema.hits page.docs).mapError Failure.metacardCreation).bind fun hits =>
      .ok ⟨hits, page.found, notes⟩

theorem respond_runs (svc : Service) (answer : EngineResponse) (notes : Annotations)
    (s : Session) : (svc.respond answer notes).Runs s [] (svc.responded answer notes) := by
  unfold respond assemble responded
  cases answer.results with
  | none => exact runs_pure _ s
  | some page =>
    exact (runs_ofFault (svc.schema.hits page.docs) s).bind_last fun hits s' => runs_pure _ s'

/-! ## Searches with counts -/

/-- The query of a search: the planned one with the counts that the request wants. -/
def countedQuery (svc : Service) (r : Request) (p : PlannedQuery) : EngineQuery :=
  (p.query.withFacets svc.schema r.properties).1

/-- The annotations with the counts of an answer, if the request wants any. -/
def countedNotes (svc : Service) (r : Request) (p : PlannedQuery) (answer : EngineResponse)
    (notes : Annotations) : Annotations :=
  if (p.query.withFacets svc.schema r.properties).2 then notes.addFacets svc.schema answer
  else notes

/-- The request wants its spelling checked. -/
def checksSpelling (r : Request) : Bool :=
  (r.properties.flag? Properties.spellcheck).getD false

theorem searchCounted_runs (svc : Service) (r : Request) (p : PlannedQuery) (s : Session) :
    ∃ asked out, Passes (svc.countedQuery r p) .empty (checksSpelling r)
        (s.reply 0) (s.reply 1) asked out ∧
      (svc.searchCounted p.query r.properties).Runs s asked
        (out.bind fun x => .ok (x.1, svc.countedNotes r p x.1 x.2)) := by
  obtain ⟨asked, out, hpasses, hrun⟩ :=
    searchSpelled_runs (svc.countedQuery r p) (checksSpelling r) .empty s
  exact ⟨asked, out, hpasses, hrun.bind_last fun x s' => runs_pure _ s'⟩

/-! ## The routes -/

/-- A planned request is looked up: the caller forces it, or the filter is nothing but
identifiers. -/
def LooksUp (r : Request) (p : PlannedQuery) : Prop :=
  r.Sets Properties.directLookup ∨ p.isLookup = true

/-- The routes of a request: the queries that are asked and what comes of them. -/
inductive Routed (svc : Service) (r : Request) (s : Session) :
    List EngineQuery → Except Failure Response → Prop where
  /-- The page starts before the first record. -/
  | refused (hstart : r.startIndex < 1) :
    Routed svc r s [] (.error (.invalidRequest (.startIndex r.startIndex)))
  /-- Completions take the place of the search. -/
  | completed (hstart : ¬ r.startIndex < 1) {c : CompletionRequest} (hc : r.Completes c) :
    Routed svc r s [c.engineQuery]
      ((searched (s.reply 0)).bind fun answer => svc.responded answer .empty)
  /-- There is no plan. -/
  | unplanned (hstart : ¬ r.startIndex < 1) (hc : ∀ c, ¬ r.Completes c) {failure : Failure}
    (hp : svc.planned r (s.reply 0) = .error failure) :
    Routed svc r s (svc.probes r) (.error failure)
  /-- The records are looked up by their identifiers. -/
  | lookedUp (hstart : ¬ r.startIndex < 1) (hc : ∀ c, ¬ r.Completes c) {p : PlannedQuery}
    (hp : svc.planned r (s.reply 0) = .ok p) (hl : LooksUp r p) :
    Routed svc r s (svc.probes r ++ [p.query.asLookup p.ids])
      ((searched (s.reply (svc.probes r).length)).bind fun answer => svc.responded answer .empty)
  /-- The records are searched, in one pass or two. -/
  | counted (hstart : ¬ r.startIndex < 1) (hc : ∀ c, ¬ r.Completes c) {p : PlannedQuery}
    (hp : svc.planned r (s.reply 0) = .ok p) (hl : ¬ LooksUp r p)
    {asked : List EngineQuery} {out : Except Failure (EngineResponse × Annotations)}
    (hpasses : Passes (svc.countedQuery r p) .empty (checksSpelling r)
      (s.reply (svc.probes r).length) (s.reply ((svc.probes r).length + 1)) asked out) :
    Routed svc r s (svc.probes r ++ asked)
      (out.bind fun x => svc.responded x.1 (svc.countedNotes r p x.1 x.2))

theorem looksUp_iff {r : Request} {p : PlannedQuery} :
    ((r.properties.flag? Properties.directLookup).getD false || p.isLookup) = true ↔
      LooksUp r p := by
  rw [Bool.or_eq_true, Properties.flag?_getD_iff]
  rfl

/-- An answer to one query becomes the response. -/
theorem answered_runs (svc : Service) (q : EngineQuery) (s : Session) :
    (ServiceM.search q >>= fun answer => svc.respond answer .empty).Runs s [q]
      ((searched (s.reply 0)).bind fun answer => svc.responded answer .empty) :=
  (search_runs q s).bind_last fun answer s' => svc.respond_runs answer .empty s'

/-- A search with its counts becomes the response. -/
theorem counted_runs (svc : Service) (r : Request) (p : PlannedQuery) (s : Session) :
    ∃ asked out, Passes (svc.countedQuery r p) .empty (checksSpelling r)
        (s.reply 0) (s.reply 1) asked out ∧
      (svc.searchCounted p.query r.properties >>= fun x => svc.respond x.1 x.2).Runs s asked
        (out.bind fun x => svc.responded x.1 (svc.countedNotes r p x.1 x.2)) := by
  obtain ⟨asked, out, hpasses, hrun⟩ := svc.searchCounted_runs r p s
  refine ⟨asked, out, hpasses, ?_⟩
  have hresponse := hrun.bind_last fun x s' => svc.respond_runs x.1 x.2 s'
  cases out with
  | error failure => exact hresponse
  | ok x => exact hresponse

/-- Serving a request takes one of the routes. -/
theorem search_runs (svc : Service) (r : Request) (s : Session) :
    ∃ asked out, Routed svc r s asked out ∧ (svc.search r).Runs s asked out := by
  unfold search
  by_cases hstart : r.startIndex < 1
  · have hcheck := r.checkStart_runs s
    rw [if_pos hstart] at hcheck
    exact ⟨_, _, .refused hstart, hcheck.bind_error _⟩
  rw [show r.checkStart = pure () from if_neg hstart]
  cases hc : CompletionRequest.ofProperties? r.properties with
  | some c =>
    exact ⟨_, _, .completed hstart (Request.completes_iff.mpr hc), svc.answered_runs _ s⟩
  | none =>
    have hnone : ∀ c, ¬ r.Completes c := by
      intro c hcomp
      rw [Request.completes_iff.mp hcomp] at hc
      cases hc
    have hplan := svc.plan_runs hstart s
    cases hp : svc.planned r (s.reply 0) with
    | error failure =>
      rw [hp] at hplan
      exact ⟨_, _, .unplanned hstart hnone hp, hplan.bind_error _⟩
    | ok p =>
      rw [hp] at hplan
      by_cases hl : LooksUp r p
      · refine ⟨_, _, .lookedUp hstart hnone hp hl, hplan.bind fun s' hs' => ?_⟩
        rw [if_pos (looksUp_iff.mpr hl)]
        rw [show s.reply (svc.probes r).length = s'.reply 0 from (hs'.reply 0).symm]
        exact svc.answered_runs _ s'
      · -- the passes get the replies that come after that to the probe, if there was one
        obtain ⟨asked, out, hpasses, hrun⟩ := svc.counted_runs r p ((svc.plan r).run s).2
        rw [hplan.asks.reply 0, hplan.asks.reply 1] at hpasses
        refine ⟨_, _, .counted hstart hnone hp hl hpasses, hplan.bind_run ?_⟩
        rw [if_neg fun h => hl (looksUp_iff.mp h)]
        exact hrun

/-! ## Which route is taken -/

namespace Routed

variable {svc : Service} {r : Request} {s : Session} {asked : List EngineQuery}
  {out : Except Failure Response} {p : PlannedQuery}

theorem of_refused (h : Routed svc r s asked out) (hstart : r.startIndex < 1) :
    asked = [] ∧ out = .error (.invalidRequest (.startIndex r.startIndex)) := by
  cases h with
  | refused _ => exact ⟨rfl, rfl⟩
  | completed hstart' _ => exact absurd hstart hstart'
  | unplanned hstart' _ _ => exact absurd hstart hstart'
  | lookedUp hstart' _ _ _ => exact absurd hstart hstart'
  | counted hstart' _ _ _ _ => exact absurd hstart hstart'

theorem of_completes (h : Routed svc r s asked out) (hstart : ¬ r.startIndex < 1)
    {c : CompletionRequest} (hc : r.Completes c) : asked = [c.engineQuery] := by
  cases h with
  | refused hstart' => exact absurd hstart' hstart
  | completed _ hc' =>
    have hsame := (Request.completes_iff.mp hc).symm.trans (Request.completes_iff.mp hc')
    rw [Option.some.inj hsame]
  | unplanned _ hno _ => exact absurd hc (hno c)
  | lookedUp _ hno _ _ => exact absurd hc (hno c)
  | counted _ hno _ _ _ => exact absurd hc (hno c)

theorem of_unplanned (h : Routed svc r s asked out) (hstart : ¬ r.startIndex < 1)
    (hno : ∀ c, ¬ r.Completes c) {failure : Failure}
    (hp : svc.planned r (s.reply 0) = .error failure) :
    asked = svc.probes r ∧ out = .error failure := by
  cases h with
  | refused hstart' => exact absurd hstart' hstart
  | completed _ hc => exact absurd hc (hno _)
  | unplanned _ _ hp' =>
    cases hp.symm.trans hp'
    exact ⟨rfl, rfl⟩
  | lookedUp _ _ hp' _ => cases hp.symm.trans hp'
  | counted _ _ hp' _ _ => cases hp.symm.trans hp'

theorem of_looksUp (h : Routed svc r s asked out) (hstart : ¬ r.startIndex < 1)
    (hno : ∀ c, ¬ r.Completes c) (hp : svc.planned r (s.reply 0) = .ok p)
    (hl : LooksUp r p) : asked = svc.probes r ++ [p.query.asLookup p.ids] := by
  cases h with
  | refused hstart' => exact absurd hstart' hstart
  | completed _ hc => exact absurd hc (hno _)
  | unplanned _ _ hp' => cases hp.symm.trans hp'
  | lookedUp _ _ hp' _ =>
    cases hp.symm.trans hp'
    rfl
  | counted _ _ hp' hl' _ =>
    cases hp.symm.trans hp'
    exact absurd hl hl'

theorem of_not_looksUp (h : Routed svc r s asked out) (hstart : ¬ r.startIndex < 1)
    (hno : ∀ c, ¬ r.Completes c) (hp : svc.planned r (s.reply 0) = .ok p)
    (hl : ¬ LooksUp r p) :
    ∃ passes result, asked = svc.probes r ++ passes ∧
      Passes (svc.countedQuery r p) .empty (checksSpelling r)
        (s.reply (svc.probes r).length) (s.reply ((svc.probes r).length + 1)) passes result := by
  cases h with
  | refused hstart' => exact absurd hstart' hstart
  | completed _ hc => exact absurd hc (hno _)
  | unplanned _ _ hp' => cases hp.symm.trans hp'
  | lookedUp _ _ hp' hl' =>
    cases hp.symm.trans hp'
    exact absurd hl' hl
  | counted _ _ hp' _ hpasses =>
    cases hp.symm.trans hp'
    exact ⟨_, _, rfl, hpasses⟩

theorem length_probes_le (svc : Service) (r : Request) : (svc.probes r).length ≤ 1 := by
  unfold probes
  split
  · split
    · exact Nat.le_refl 1
    · exact Nat.zero_le 1
  · exact Nat.zero_le 1

/-- Never more than the probe and two passes. -/
theorem length_asked (h : Routed svc r s asked out) : asked.length ≤ 3 := by
  have hprobes := length_probes_le svc r
  cases h with
  | refused _ => exact Nat.zero_le 3
  | completed _ _ => exact Nat.le_add_left 1 2
  | unplanned _ _ _ => omega
  | lookedUp _ _ _ _ =>
    rw [List.length_append, List.length_singleton]
    omega
  | counted _ _ _ _ hpasses =>
    have hlength := hpasses.length_asked
    rw [List.length_append]
    omega

end Routed

/-! ## Routing over the fields of a schema -/

/-- The query that counts all records of a text: it starts with the page, and has no rows. -/
def zeroRows (r : Request) (text : Option String) : EngineQuery :=
  { text := text, start := some r.start, rows := some 0 }

/-- The probe of a request whose filter became a text: only a page of all records has one. -/
def probe (svc : Service) (r : Request) (text : Option String) : List EngineQuery :=
  if svc.wantsAll r then [zeroRows r text] else []

/-- A request that is looked up: its caller forces that, or its filter is nothing but
identifiers. -/
def IsDirect (r : Request) : Prop :=
  r.Sets Properties.directLookup ∨ r.filter.isLookup = .ok true

/-- The queries of a request, told route by route. -/
structure Routing (svc : Service) (r : Request) (s : Session) (asked : List EngineQuery)
    (out : Except Failure Response) : Prop where
  /-- At most the probe and two passes are asked. -/
  length : asked.length ≤ 3
  /-- A page that starts before the first record is refused without a query. -/
  refused : r.startIndex < 1 →
    asked = [] ∧ out = .error (.invalidRequest (.startIndex r.startIndex))
  /-- Completions are the one query of their request, whatever else it holds. -/
  completed : ¬ r.startIndex < 1 → ∀ c, r.Completes c → asked = [c.engineQuery]
  /-- A request without a plan leads to the probe at most. -/
  unplanned : ¬ r.startIndex < 1 → (∀ c, ¬ r.Completes c) →
    ∀ failure, ((svc.plan r).run s).1 = .error failure →
      out = .error failure ∧ (asked = [] ∨ ∃ text, asked = svc.probe r (some text))
  /-- A direct lookup asks for the identifiers of the filter; its text is the one filter. -/
  lookedUp : ¬ r.startIndex < 1 → (∀ c, ¬ r.Completes c) →
    ∀ p, ((svc.plan r).run s).1 = .ok p → IsDirect r →
      ∃ q text, asked = svc.probe r (some text) ++ [q] ∧ p.query.text = some text ∧
        q = p.query.asLookup p.ids ∧ q.handler = some lookupHandler ∧ q.text = none ∧
        q.filters = [text] ∧ q.params.get? idsParam = some p.ids
  /-- Any other request is searched, with the spelling checked if it says so. -/
  searched : ¬ r.startIndex < 1 → (∀ c, ¬ r.Completes c) →
    ∀ p, ((svc.plan r).run s).1 = .ok p → ¬ IsDirect r →
      ∃ q text, p.query.text = some text ∧ q = (p.query.withFacets svc.schema r.properties).1 ∧
        (¬ r.Sets Properties.spellcheck → asked = svc.probe r (some text) ++ [q]) ∧
        (r.Sets Properties.spellcheck →
          ((∀ answer, s.reply (svc.probe r (some text)).length = .ok answer →
              answer.collations = []) →
            asked = svc.probe r (some text) ++ [q.checked true]) ∧
          (∀ answer, s.reply (svc.probe r (some text)).length = .ok answer →
            answer.collations ≠ [] →
              ∃ best : Collation, best.IsMost answer.collations ∧
                asked = svc.probe r (some text) ++
                  [q.checked true, (q.checked true).retried best]))

section Fields

variable {config : Config} {schema : Schema} {r : Request} {s : Session}

/-- The probe of a written filter is that of its text. -/
theorem probes_of_write (config : Config) {written : WrittenFilter}
    (hw : r.filter.write schema r.sorts = .ok written) :
    ∃ text, written.query = .ofText text ∧
      probes { config, schema } r = probe { config, schema } r (some text) := by
  obtain ⟨⟨text, htext⟩, -⟩ := Filter.write_eq_ok hw
  refine ⟨text, htext, ?_⟩
  rw [probes_of_ok hw]
  unfold probe zeroRows probeQuery
  rw [htext]
  rfl

/-- A plan holds the text of its filter and no other filter, and the verdict on the filter. -/
theorem planned_text {reply : Except String EngineResponse} {p : PlannedQuery}
    (hp : planned { config, schema } r reply = .ok p) :
    ∃ text, p.query.text = some text ∧ p.query.filters = [] ∧
      probes { config, schema } r = probe { config, schema } r (some text) ∧
      (LooksUp r p ↔ IsDirect r) := by
  obtain ⟨written, rows, hw, -, rfl⟩ := planned_eq_ok hp
  obtain ⟨text, htext, hprobes⟩ := probes_of_write config hw
  obtain ⟨hptext, hpfilters⟩ := planOf_query { config, schema } r written rows
  refine ⟨text, ?_, ?_, hprobes, ?_⟩
  · rw [hptext, htext]
    rfl
  · rw [hpfilters, htext]
    rfl
  · unfold LooksUp IsDirect
    rw [(Filter.write_eq_ok hw).2]
    exact or_congr_right ⟨fun h => congrArg Except.ok h, fun h => Except.ok.inj h⟩

/-- **Routing.** Serving a request adds only queries to the calls, at most three, and they
are the queries of the route that its directives, its plan and its filter call for. -/
theorem search_routing (config : Config) (schema : Schema) (r : Request) (s : Session) :
    ∃ asked out after, (search { config, schema } r).run s = (out, after) ∧
      after.calls = s.calls ++ asked.map Call.query ∧
      Routing { config, schema } r s asked out := by
  obtain ⟨asked, out, hrouted, hrun⟩ := search_runs { config, schema } r s
  refine ⟨asked, out, _, Prod.ext hrun.outcome rfl, hrun.asks.calls, ?_⟩
  have hplan : ∀ hstart : ¬ r.startIndex < 1,
      ((plan { config, schema } r).run s).1 = planned { config, schema } r (s.reply 0) :=
    fun hstart => (plan_runs { config, schema } hstart s).outcome
  constructor
  case length => exact hrouted.length_asked
  case refused => exact hrouted.of_refused
  case completed =>
    intro hstart c hc
    exact hrouted.of_completes hstart hc
  case unplanned =>
    intro hstart hno failure hp
    rw [hplan hstart] at hp
    obtain ⟨rfl, hout⟩ := hrouted.of_unplanned hstart hno hp
    refine ⟨hout, ?_⟩
    cases hw : r.filter.write schema r.sorts with
    | error _ =>
      -- without a written filter there is nothing to count
      left
      unfold probes
      rw [show Service.writer { config, schema } r.filter r.sorts = .error _ from hw]
    | ok written =>
      obtain ⟨text, -, hprobes⟩ := probes_of_write config hw
      exact .inr ⟨text, hprobes⟩
  case lookedUp =>
    intro hstart hno p hp hdirect
    rw [hplan hstart] at hp
    obtain ⟨text, htext, hfilters, hprobes, hl⟩ := planned_text hp
    have hasked := hrouted.of_looksUp hstart hno hp (hl.mpr hdirect)
    rw [hprobes] at hasked
    refine ⟨_, text, hasked, htext, rfl, rfl, rfl, ?_, KeyMap.get?_insert_self ..⟩
    show p.query.filters ++ p.query.text.toList = [text]
    rw [hfilters, htext]
    rfl
  case searched =>
    intro hstart hno p hp hdirect
    rw [hplan hstart] at hp
    obtain ⟨text, htext, -, hprobes, hl⟩ := planned_text hp
    obtain ⟨passes, result, hasked, hpasses⟩ :=
      hrouted.of_not_looksUp hstart hno hp fun h => hdirect (hl.mp h)
    rw [hprobes] at hasked hpasses
    refine ⟨_, text, htext, rfl, ?_, ?_⟩
    · intro hcheck
      have hfalse : checksSpelling r = false :=
        Bool.eq_false_iff.mpr fun h => hcheck (Properties.flag?_getD_iff.mp h)
      rw [hasked, hpasses.asked_of_unchecked hfalse]
      rfl
    · intro hcheck
      rw [show checksSpelling r = true from Properties.flag?_getD_iff.mpr hcheck] at hpasses
      constructor
      · intro hnone
        rw [hasked, hpasses.asked_of_no_offer hnone]
        rfl
      · intro answer hanswer hne
        rw [hanswer] at hpasses
        obtain ⟨best, hmost, hpair, -⟩ := hpasses.of_offer hne
        exact ⟨best, hmost, by rw [hasked, hpair]; rfl⟩

end Fields

end Service

end CatalogSearch
