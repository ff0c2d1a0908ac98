import CatalogSearch.Proofs.Filter.Refusal
import CatalogSearch.Proofs.Service.Routing

/-!
# Where a request fails

The kind of a failure tells how far its request came: before any query, at the probe for the
number of records, at a later query, or after the last answer.

- `Service.Ending`: every way a request can end, with the queries it has asked by then.
- `Service.ending_of_routed`: each route has one of these endings.
- `Service.Reports`: what the kind of a failure says, and which failures are never reported.
- `Service.search_reports`: this holds for every request.
-/

namespace CatalogSearch

/-- The answer to a probe gives no row count: it has no list of results, or it counts more than a
row count holds. -/
def EngineResponse.Uncountable (answer : EngineResponse) : Prop :=
  ∀ page, answer.results = some page → UInt32.size ≤ page.found.toNat

theorem EngineResponse.rowCount_eq_error {answer : EngineResponse} {failure : Failure}
    (h : answer.rowCount = .error failure) :
    answer.Uncountable ∧ ∃ fault, failure = .unsupportedQuery .rowCount fault := by
  unfold rowCount at h
  -- any width will do here, as in counting the rows
  obtain ⟨toRows?, hwidth⟩ : ∃ toRows?, toRows? = Width.toUInt32? := ⟨_, rfl⟩
  rw [← hwidth] at h
  split at h
  · next hresults =>
    cases h
    refine ⟨fun page hpage => ?_, _, rfl⟩
    cases hresults.symm.trans hpage
  · next page hresults =>
    split at h
    · cases h
    · next hnone =>
      cases h
      refine ⟨fun other hother => ?_, _, rfl⟩
      obtain rfl : page = other := Option.some.inj (hresults.symm.trans hother)
      rw [hwidth] at hnone
      exact Width.le_of_toUInt32?_eq_none hnone

namespace Service

open ServiceM

/-- Every one of these queries got an answer. -/
def Answered (s : Session) (asked : List EngineQuery) : Prop :=
  ∀ n < asked.length, ∃ answer, s.reply n = .ok answer

theorem answered_nil (s : Session) : Answered s [] := nofun

theorem Answered.append {s : Session} {asked : List EngineQuery} (h : Answered s asked)
    (q : EngineQuery) {answer : EngineResponse} (hreply : s.reply asked.length = .ok answer) :
    Answered s (asked ++ [q]) := by
  intro n hn
  rw [List.length_append, List.length_singleton] at hn
  rcases Nat.lt_or_eq_of_le (Nat.le_of_lt_succ hn) with hlt | rfl
  · exact h n hlt
  · exact ⟨answer, hreply⟩

/-- The ways a request can end: the queries that it has asked by then, and what comes of it. -/
inductive Ending (svc : Service) (r : Request) (s : Session) :
    List EngineQuery → Except Failure Response → Prop where
  /-- There is a response. -/
  | answered {asked : List EngineQuery} {response : Response} (hanswered : Answered s asked) :
    Ending svc r s asked (.ok response)
  /-- A document of the last answer is no record. -/
  | uncreated {asked : List EngineQuery} {fault : MetacardFault} (hanswered : Answered s asked) :
    Ending svc r s asked (.error (.metacardCreation fault))
  /-- The request cannot be served. -/
  | invalid {fault : RequestFault} : Ending svc r s [] (.error (.invalidRequest fault))
  /-- There is no field for a test. -/
  | noField {property : String} {wanted : Test} (hmem : (property, wanted) ∈ r.filter.tests)
    (hfield : wanted.field? svc.schema property = none) :
    Ending svc r s [] (.error (.unsupportedQuery .search (.noField property)))
  /-- A test names an instant outside the calendar. -/
  | beyondCalendar {property : String} {wanted : Test}
    (hmem : (property, wanted) ∈ r.filter.tests) {instant : Instant}
    (hinstant : instant ∈ wanted.instants) (hutc : instant.toUtc? = none) :
    Ending svc r s [] (.error (.defect .beyondCalendar))
  /-- The engine fails at the probe. -/
  | probeFailed {q : EngineQuery} {reason : String} (hprobes : svc.probes r = [q])
    (hreply : s.reply 0 = .error reason) :
    Ending svc r s [q] (.error (.unsupportedQuery .rowCount (.engine reason)))
  /-- The answer to the probe gives no row count. -/
  | uncounted {q : EngineQuery} {answer : EngineResponse} {fault : QueryFault}
    (hprobes : svc.probes r = [q]) (hreply : s.reply 0 = .ok answer)
    (hcount : answer.Uncountable) :
    Ending svc r s [q] (.error (.unsupportedQuery .rowCount fault))
  /-- The engine fails at a query other than the probe. -/
  | searchFailed {before : List EngineQuery} {q : EngineQuery} {reason : String}
    (hanswered : Answered s before) (hreply : s.reply before.length = .error reason)
    (hprobes : before ++ [q] ≠ svc.probes r) :
    Ending svc r s (before ++ [q]) (.error (.unsupportedQuery .search (.engine reason)))

section Endings

variable {svc : Service} {r : Request} {s : Session}

/-- The last answer becomes a response, or a document of it is no record. -/
theorem responded_ending {asked : List EngineQuery} (hanswered : Answered s asked)
    (answer : EngineResponse) (notes : Annotations) :
    Ending svc r s asked (svc.responded answer notes) := by
  unfold responded
  dsimp only
  split
  · exact .answered hanswered
  · next page _ =>
    cases svc.schema.hits page.docs with
    | ok hits => exact .answered hanswered
    | error fault => exact .uncreated hanswered

/-- A last query that is not the probe fails, or its answer becomes the response. -/
theorem searched_ending {before : List EngineQuery} (hanswered : Answered s before)
    {q : EngineQuery} (hprobes : before ++ [q] ≠ svc.probes r) :
    Ending svc r s (before ++ [q])
      ((searched (s.reply before.length)).bind fun answer => svc.responded answer .empty) := by
  cases hreply : s.reply before.length with
  | error reason => exact .searchFailed hanswered hreply hprobes
  | ok answer => exact responded_ending (hanswered.append q hreply) answer .empty

/-- Queries after the probe are not the probe. -/
theorem append_ne_probes (svc : Service) (r : Request) (q : EngineQuery)
    (rest : List EngineQuery) : svc.probes r ++ q :: rest ≠ svc.probes r := by
  intro h
  have hlength := congrArg List.length h
  rw [List.length_append, List.length_cons] at hlength
  omega

/-- The passes of a search fail at one of them, or one of their answers becomes the response. -/
theorem passes_ending (hanswered : Answered s (svc.probes r)) {q : EngineQuery}
    {notes : Annotations} {check : Bool} {first second : Except String EngineResponse}
    {asked : List EngineQuery} {out : Except Failure (EngineResponse × Annotations)}
    (hpasses : Passes q notes check first second asked out)
    (hfirst : s.reply (svc.probes r).length = first)
    (hsecond : s.reply ((svc.probes r).length + 1) = second)
    (noted : EngineResponse → Annotations → Annotations) :
    Ending svc r s (svc.probes r ++ asked)
      (out.bind fun x => svc.responded x.1 (noted x.1 x.2)) := by
  have hsecond : ∀ q', s.reply (svc.probes r ++ [q']).length = second := by
    intro q'
    rw [List.length_append]
    exact hsecond
  cases hpasses with
  | failed => exact .searchFailed hanswered hfirst (append_ne_probes svc r _ [])
  | once _ => exact responded_ending (hanswered.append _ hfirst) _ _
  | lost _ =>
    rw [List.append_cons]
    refine .searchFailed (hanswered.append _ hfirst) (hsecond _) ?_
    rw [← List.append_cons]
    exact append_ne_probes svc r _ _
  | kept _ _ =>
    rw [List.append_cons]
    exact responded_ending ((hanswered.append _ hfirst).append _ (hsecond _)) _ _
  | adopted _ _ =>
    rw [List.append_cons]
    exact responded_ending ((hanswered.append _ hfirst).append _ (hsecond _)) _ _

/-- A planned request got an answer to its probe, if it had one. -/
theorem answered_of_planned {p : PlannedQuery} (hp : svc.planned r (s.reply 0) = .ok p) :
    Answered s (svc.probes r) := by
  obtain ⟨written, rows, hwritten, hrows, -⟩ := planned_eq_ok hp
  rw [probes_of_ok hwritten]
  by_cases hall : svc.wantsAll r = true
  · rw [if_pos hall]
    unfold pageRows at hrows
    rw [if_pos hall] at hrows
    obtain ⟨answer, hanswer, -⟩ := exists_of_bind_eq_ok hrows
    cases hreply : s.reply 0 with
    | error reason =>
      rw [hreply] at hanswer
      cases hanswer
    | ok first => exact (answered_nil s).append _ hreply
  · rw [if_neg hall]
    exact answered_nil s

end Endings

section Fields

variable {config : Config} {schema : Schema} {r : Request} {s : Session}

/-- A request without a plan is refused before any query, or fails at the probe. -/
theorem unplanned_ending {failure : Failure}
    (hp : planned { config, schema } r (s.reply 0) = .error failure) :
    Ending { config, schema } r s (probes { config, schema } r) (.error failure) := by
  rcases bind_eq_error hp with hw | ⟨written, hw, hp⟩
  · rw [probes_of_error hw]
    cases Filter.refusal_of_write hw with
    | tooDeep => exact .invalid
    | noField hmem hfield => exact .noField hmem hfield
    | instantYear => exact .invalid
    | beyondCalendar hmem hinstant hutc => exact .beyondCalendar hmem hinstant hutc
  rcases bind_eq_error hp with hrows | ⟨_, -, hok⟩
  · by_cases hall : wantsAll { config, schema } r = true
    · have hprobes : probes { config, schema } r = [probeQuery r written] := by
        rw [probes_of_ok hw, if_pos hall]
      rw [hprobes]
      unfold pageRows at hrows
      rw [if_pos hall] at hrows
      cases hreply : s.reply 0 with
      | error reason =>
        rw [hreply] at hrows
        cases hrows
        exact .probeFailed hprobes hreply
      | ok answer =>
        rw [hreply] at hrows
        obtain ⟨hcount, fault, rfl⟩ := EngineResponse.rowCount_eq_error hrows
        exact .uncounted hprobes hreply hcount
    · obtain ⟨rfl, -⟩ := (pageRows_eq_error_iff hall).mp hrows
      rw [probes_of_ok hw, if_neg hall]
      exact .invalid
  · cases hok

/-- The query for completions goes to a handler of its own, so it is no probe. -/
theorem completion_ne_probes (c : CompletionRequest) :
    [c.engineQuery] ≠ probes { config, schema } r := by
  have hhandler : c.engineQuery.handler = some completionHandler := by
    unfold CompletionRequest.engineQuery
    cases c.build <;> rfl
  intro h
  cases hw : r.filter.write schema r.sorts with
  | error failure =>
    rw [probes_of_error hw] at h
    cases h
  | ok written =>
    -- a written filter is a text for the standard handler
    obtain ⟨text, -, hprobes⟩ := probes_of_write config hw
    rw [hprobes] at h
    unfold probe at h
    split at h
    · rw [List.singleton_inj.mp h] at hhandler
      cases hhandler
    · cases h

/-- Every route has one of the endings. -/
theorem ending_of_routed {asked : List EngineQuery} {out : Except Failure Response}
    (h : Routed { config, schema } r s asked out) : Ending { config, schema } r s asked out := by
  cases h with
  | refused _ => exact .invalid
  | completed _ hc => exact searched_ending (answered_nil s) (completion_ne_probes _)
  | unplanned _ _ hp => exact unplanned_ending hp
  | lookedUp _ _ hp _ => exact searched_ending (answered_of_planned hp) (append_ne_probes _ r _ [])
  | counted _ _ hp _ hpasses => exact passes_ending (answered_of_planned hp) hpasses rfl rfl _

end Fields

/-! ## What a failure tells -/

/-- The probe is the only query that was asked. -/
def AskedProbeOnly (svc : Service) (r : Request) (asked : List EngineQuery) : Prop :=
  asked ≠ [] ∧ asked = svc.probes r

/-- What the failure of a request tells about its queries and their replies. -/
structure Reports (svc : Service) (r : Request) (s : Session) (asked : List EngineQuery)
    (out : Except Failure Response) : Prop where
  /-- A request that cannot be served asks nothing. -/
  invalid : ∀ fault, out = .error (.invalidRequest fault) → asked = []
  /-- A page that starts before the first record is refused. -/
  early : r.startIndex < 1 → ∃ fault, out = .error (.invalidRequest fault)
  /-- A page that is longer than a row count is refused, once there is a filter for it. -/
  tooLong : (∀ c, ¬ r.Completes c) → ∀ written, svc.writer r.filter r.sorts = .ok written →
    UInt32.size ≤ r.pageSize.toInt → ∃ fault, out = .error (.invalidRequest fault)
  /-- Records fail to be made only after the last answer. -/
  uncreated : ∀ fault, out = .error (.metacardCreation fault) → Answered s asked
  /-- A query is not supported for want of a field, or since the engine failed at the last query,
  or since the probe was answered without a count. -/
  unsupported : ∀ inquiry fault, out = .error (.unsupportedQuery inquiry fault) →
    (asked = [] ∧ ∃ e ∈ r.filter.tests, e.2.field? svc.schema e.1 = none) ∨
    (asked ≠ [] ∧ ∃ reason, s.reply (asked.length - 1) = .error reason ∧
      (Failure.unsupportedQuery inquiry fault).cause? = some reason) ∨
    (svc.AskedProbeOnly r asked ∧ ∃ answer, s.reply 0 = .ok answer ∧ answer.Uncountable)
  /-- The words say whether it was the probe that came to nothing. -/
  message : ∀ inquiry fault, out = .error (.unsupportedQuery inquiry fault) →
    ((Failure.unsupportedQuery inquiry fault).message = Inquiry.rowCount.message ↔
      svc.AskedProbeOnly r asked)
  /-- The engine is not blamed for a write. -/
  noWrite : ∀ reason, out ≠ .error (.backend reason)
  /-- A correct caller keeps instants within the calendar. -/
  defect : ∀ d, out = .error (.defect d) →
    ∃ e ∈ r.filter.tests, ∃ instant ∈ e.2.instants, instant.toUtc? = none
  /-- Whatever the engine fails at ends the request, with the engine's words as the cause. -/
  failing : ∀ n < asked.length, ∀ reason, s.reply n = .error reason →
    n + 1 = asked.length ∧ ∃ inquiry, out = .error (.unsupportedQuery inquiry (.engine reason))

namespace Ending

variable {svc : Service} {r : Request} {s : Session} {asked : List EngineQuery}
  {out : Except Failure Response}

theorem unsupported {inquiry : Inquiry} {fault : QueryFault}
    (h : Ending svc r s asked (.error (.unsupportedQuery inquiry fault))) :
    (asked = [] ∧ ∃ e ∈ r.filter.tests, e.2.field? svc.schema e.1 = none) ∨
    (asked ≠ [] ∧ ∃ reason, s.reply (asked.length - 1) = .error reason ∧
      (Failure.unsupportedQuery inquiry fault).cause? = some reason) ∨
    (svc.AskedProbeOnly r asked ∧ ∃ answer, s.reply 0 = .ok answer ∧ answer.Uncountable) := by
  cases h with
  | noField hmem hfield => exact .inl ⟨rfl, _, hmem, hfield⟩
  | probeFailed _ hreply => exact .inr (.inl ⟨List.cons_ne_nil _ _, _, hreply, rfl⟩)
  | uncounted hprobes hreply hcount =>
    exact .inr (.inr ⟨⟨List.cons_ne_nil _ _, hprobes.symm⟩, _, hreply, hcount⟩)
  | @searchFailed before q reason _ hreply _ =>
    have hasked : before ++ [q] ≠ [] :=
      List.append_ne_nil_of_right_ne_nil _ (List.cons_ne_nil _ _)
    refine .inr (.inl ⟨hasked, reason, ?_, rfl⟩)
    rw [List.length_append, List.length_singleton, Nat.add_sub_cancel]
    exact hreply

theorem message_eq_iff {inquiry : Inquiry} {fault : QueryFault}
    (h : Ending svc r s asked (.error (.unsupportedQuery inquiry fault))) :
    (Failure.unsupportedQuery inquiry fault).message = Inquiry.rowCount.message ↔
      svc.AskedProbeOnly r asked := by
  have hother : Inquiry.search.message ≠ Inquiry.rowCount.message := by
    decide
  cases h with
  | noField _ _ => exact iff_of_false hother fun h => h.1 rfl
  | probeFailed hprobes _ => exact iff_of_true rfl ⟨List.cons_ne_nil _ _, hprobes.symm⟩
  | uncounted hprobes _ _ => exact iff_of_true rfl ⟨List.cons_ne_nil _ _, hprobes.symm⟩
  | searchFailed _ _ hprobes => exact iff_of_false hother fun h => hprobes h.2

/-- A query that fails is the last one. -/
theorem failing (h : Ending svc r s asked out) {n : Nat} (hn : n < asked.length)
    {reason : String} (hfail : s.reply n = .error reason) :
    n + 1 = asked.length ∧
      ∃ inquiry, out = .error (.unsupportedQuery inquiry (.engine reason)) := by
  -- a query that was answered did not fail
  have hno : ∀ {before : List EngineQuery}, Answered s before → ¬ n < before.length := by
    intro before hanswered hlt
    obtain ⟨answer, hanswer⟩ := hanswered n hlt
    cases hfail.symm.trans hanswer
  cases h with
  | answered hanswered => exact absurd hn (hno hanswered)
  | uncreated hanswered => exact absurd hn (hno hanswered)
  | invalid => exact absurd hn (Nat.not_lt_zero n)
  | noField _ _ => exact absurd hn (Nat.not_lt_zero n)
  | beyondCalendar _ _ _ => exact absurd hn (Nat.not_lt_zero n)
  | probeFailed _ hreply =>
    obtain rfl : n = 0 := Nat.lt_one_iff.mp hn
    cases hfail.symm.trans hreply
    exact ⟨rfl, _, rfl⟩
  | uncounted _ hreply _ =>
    obtain rfl : n = 0 := Nat.lt_one_iff.mp hn
    cases hfail.symm.trans hreply
  | @searchFailed before q _ hanswered hreply _ =>
    rw [List.length_append, List.length_singleton] at hn ⊢
    obtain rfl : n = before.length :=
      Nat.le_antisymm (Nat.le_of_lt_succ hn) (Nat.le_of_not_lt (hno hanswered))
    cases hfail.symm.trans hreply
    exact ⟨rfl, _, rfl⟩

end Ending

/-- A page size beyond all row counts does not ask for all records. -/
theorem not_wantsAll_of_le {svc : Service} {r : Request} (h : UInt32.size ≤ r.pageSize.toInt) :
    ¬ svc.wantsAll r = true := by
  have hpositive : 1 ≤ r.pageSize.toInt := Int.le_trans (Int.ofNat_le.mpr (by decide)) h
  unfold wantsAll PagingMode.wantsAll
  intro hall
  split at hall
  · have hlt := Int64.lt_iff_toInt_lt.mp (of_decide_eq_true hall)
    rw [Int64.toInt_zero] at hlt
    omega
  · have hlt := Int64.lt_iff_toInt_lt.mp (of_decide_eq_true hall)
    rw [Int64.toInt_one] at hlt
    omega

/-- **Failures tell where.** Serving a request adds only queries to the calls. A fault of the
request comes before any of them, and a fault of a document after the last answer. A query is not
supported for want of a field or since the engine gave no answer to the last query, or no count
with it; the words tell whether that was the probe, and whatever the engine says itself is the
cause. -/
theorem search_reports (config : Config) (schema : Schema) (r : Request) (s : Session) :
    ∃ asked out after, (search { config, schema } r).run s = (out, after) ∧
      s.Asks asked after ∧ Reports { config, schema } r s asked out := by
  obtain ⟨asked, out, hrouted, hrun⟩ := search_runs { config, schema } r s
  have hending := ending_of_routed hrouted
  refine ⟨asked, out, _, Prod.ext hrun.outcome rfl, hrun.asks, ?_⟩
  constructor
  case invalid =>
    rintro fault rfl
    cases hending with
    | invalid => rfl
  case early =>
    intro hstart
    exact ⟨_, (hrouted.of_refused hstart).2⟩
  case tooLong =>
    intro hno written hwritten hsize
    by_cases hstart : r.startIndex < 1
    · exact ⟨_, (hrouted.of_refused hstart).2⟩
    · have hrows : pageRows { config, schema } r (s.reply 0) = .error (.invalidRequest .pageSize) :=
        (pageRows_eq_error_iff (not_wantsAll_of_le hsize)).mpr ⟨rfl, fun h => by omega⟩
      have hp : planned { config, schema } r (s.reply 0) = .error (.invalidRequest .pageSize) := by
        unfold planned
        rw [hwritten, hrows]
        rfl
      exact ⟨_, (hrouted.of_unplanned hstart hno hp).2⟩
  case uncreated =>
    rintro fault rfl
    cases hending with
    | uncreated hanswered => exact hanswered
  case unsupported =>
    rintro inquiry fault rfl
    exact hending.unsupported
  case message =>
    rintro inquiry fault rfl
    exact hending.message_eq_iff
  case noWrite =>
    rintro reason rfl
    cases hending
  case defect =>
    rintro d rfl
    cases hending with
    | beyondCalendar hmem hinstant hutc => exact ⟨_, hmem, _, hinstant, hutc⟩
  case failing =>
    intro n hn reason hfail
    exact hending.failing hn hfail

end Service

end CatalogSearch
