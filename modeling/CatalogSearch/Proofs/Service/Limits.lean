import CatalogSearch.Proofs.Service.Budget
import CatalogSearch.Proofs.Service.Failures
import CatalogSearch.Proofs.Service.Paging
import CatalogSearch.Proofs.Service.Removing
import CatalogSearch.Proofs.Service.Storing
import CatalogSearch.Service.Operation

/-!
# Limits

Settings without a fault keep the numbers of every call within what the engine understands, whatever
is asked of the service and in whatever order.

- `Config.fault?_eq_none_iff`: the settings without a fault.
- `Call.WithinLimits`: the numbers of a call are within the limits.
- `ServiceM.Does`: what an action sends and comes to, for queries, lookups and writes alike.
- `Service.Carries`: a session, operation by operation.
- `Service.run_limits`: one operation keeps to the limits.
- `Service.runAll_limits`: so does every session.
-/

namespace CatalogSearch

/-! ## Settings -/

/-- Settings without a fault have room for something in every batch, and times within what the
engine understands. -/
theorem Config.fault?_eq_none_iff {c : Config} :
    c.fault? = none ↔ 0 < c.search.lookupLimit ∧ 0 < c.search.clauseLimit ∧
      c.search.timeAllowed.toNat ≤ 2147483647 ∧ c.commit.promptWithin.toNat ≤ 2147483647 := by
  -- the four faults are looked for one after the other
  unfold fault?
  simp only [UInt32.lt_iff_toNat_lt, show maxTime.toNat = 2147483647 from rfl]
  split
  · next h => exact iff_of_false nofun (by omega)
  · split
    · next h => exact iff_of_false nofun (by omega)
    · split
      · next h => exact iff_of_false nofun (by omega)
      · split
        · next h => exact iff_of_false nofun (by omega)
        · exact iff_of_true rfl (by omega)

/-! ## The numbers of a call -/

/-- The numbers of a call are within what the engine understands. -/
def Call.WithinLimits : Call → Prop
  | query q => ∀ time, q.timeAllowed = some time → 1 ≤ time.toNat ∧ time.toNat ≤ 2147483647
  | store _ within => ∀ time, within = some time → time.toNat ≤ 2147483647
  | _ => True

/-- A query without a time of its own is within the limits. -/
theorem EngineQuery.withinLimits {q : EngineQuery} (h : q.timeAllowed = none) :
    (Call.query q).WithinLimits := by
  intro time htime
  rw [h] at htime
  cases htime

/-- The calls and the outcome of an action keep to the limits: no call goes beyond them, and no
list was cut into batches of nothing. -/
structure KeepsLimits {α : Type} (sent : List Call) (out : Except Failure α) : Prop where
  calls : ∀ c ∈ sent, c.WithinLimits
  batches : out ≠ .error (.defect .emptyBatches)

namespace KeepsLimits

variable {α β : Type} {sent : List Call}

/-- Nothing is sent. -/
theorem of_nil {out : Except Failure α} (h : out ≠ .error (.defect .emptyBatches)) :
    KeepsLimits [] out :=
  ⟨List.forall_mem_nil _, h⟩

/-- A value after calls within the limits. -/
theorem of_ok (hcalls : ∀ c ∈ sent, c.WithinLimits) (x : α) :
    KeepsLimits sent (.ok x : Except Failure α) :=
  ⟨hcalls, nofun⟩

/-- What is made of a value has no part in the limits. -/
theorem map {out : Except Failure α} (h : KeepsLimits sent out) (f : α → β) :
    KeepsLimits sent (out.map f) := by
  refine ⟨h.calls, ?_⟩
  cases out with
  | ok x => exact nofun
  | error failure => exact fun heq => h.batches (congrArg Except.error (Except.error.inj heq))

/-- Faults of documents and records are not among the failures that count here. -/
theorem of_fault (hcalls : ∀ c ∈ sent, c.WithinLimits) (result : Except MetacardFault α) :
    KeepsLimits sent (result.mapError Failure.metacardCreation) := by
  refine ⟨hcalls, ?_⟩
  cases result <;> exact nofun

end KeepsLimits

/-! ## What an action does -/

namespace ServiceM

variable {α β : Type} {act : ServiceM α} {s : Session} {sent : List Call}
  {out : Except Failure α}

/-- The action comes to `out`, and the calls it adds are `sent`. -/
structure Does (act : ServiceM α) (s : Session) (sent : List Call) (out : Except Failure α) :
    Prop where
  outcome : (act.run s).1 = out
  calls : (act.run s).2.calls = s.calls ++ sent

theorem Runs.does {asked : List EngineQuery} (h : act.Runs s asked out) :
    act.Does s (asked.map Call.query) out :=
  ⟨h.outcome, h.asks.calls⟩

theorem Sends.does (h : act.Sends s sent out) : act.Does s sent out := by
  unfold Sends at h
  constructor
  · rw [h]
  · rw [h]
    rfl

/-- An action whose value is put into other words. -/
theorem Does.map (h : act.Does s sent out) (f : α → β) :
    (act >>= fun x => pure (f x)).Does s sent (out.map f) := by
  have hrun : act.run s = (out, (act.run s).2) := Prod.ext h.outcome rfl
  have hboth : (act >>= fun x => pure (f x)).run s = (out.map f, (act.run s).2) := by
    cases out with
    | ok x => exact bind_run_of_ok hrun
    | error failure => exact bind_run_of_error hrun
  constructor
  · rw [hboth]
  · rw [hboth]
    exact h.calls

end ServiceM

/-! ## Searches and plans -/

/-- Neither pass of a search changes its time. -/
theorem EngineQuery.checked_timeAllowed (q : EngineQuery) (check : Bool) :
    (q.checked check).timeAllowed = q.timeAllowed := by
  cases check <;> rfl

/-- Completions are not bounded in time. -/
theorem CompletionRequest.engineQuery_timeAllowed (c : CompletionRequest) :
    c.engineQuery.timeAllowed = none := by
  unfold engineQuery
  cases c.build <;> rfl

namespace Service

open ServiceM

/-- Both passes have the time of the query. -/
theorem Passes.timeAllowed {q : EngineQuery} {notes : Annotations} {check : Bool}
    {first second : Except String EngineResponse} {asked : List EngineQuery}
    {out : Except Failure (EngineResponse × Annotations)}
    (h : Passes q notes check first second asked out) :
    ∀ q' ∈ asked, q'.timeAllowed = q.timeAllowed := by
  have hchecked := q.checked_timeAllowed
  have hpair : ∀ best, ∀ q' ∈ [q.checked true, (q.checked true).retried best],
      q'.timeAllowed = q.timeAllowed := by
    intro best q' hq'
    rcases List.mem_cons.mp hq' with rfl | hq'
    · exact hchecked true
    · rw [List.mem_singleton.mp hq']
      exact hchecked true
  cases h with
  | failed => exact fun q' hq' => List.mem_singleton.mp hq' ▸ hchecked _
  | once _ => exact fun q' hq' => List.mem_singleton.mp hq' ▸ hchecked _
  | lost _ => exact hpair _
  | kept _ _ => exact hpair _
  | adopted _ _ => exact hpair _

section Search

variable {config : Config} {schema : Schema} {r : Request} {s : Session}

/-- Counting values takes no time of its own. -/
theorem countedQuery_timeAllowed (svc : Service) (r : Request) (p : PlannedQuery) :
    (svc.countedQuery r p).timeAllowed = p.query.timeAllowed := by
  unfold countedQuery EngineQuery.withFacets
  split <;> rfl

/-- A plan has the time of its request. -/
theorem planned_timeAllowed {svc : Service} {reply : Except String EngineResponse}
    {p : PlannedQuery} (h : svc.planned r reply = .ok p) :
    p.query.timeAllowed = allowedTime svc.config.search.timeAllowed r.timeout := by
  obtain ⟨written, rows, -, -, rfl⟩ := planned_eq_ok h
  rfl

/-- A probe is not bounded in time. -/
theorem probes_timeAllowed :
    ∀ q ∈ probes { config, schema } r, q.timeAllowed = none := by
  intro q hq
  cases hw : r.filter.write schema r.sorts with
  | error failure =>
    rw [probes_of_error (show Service.writer { config, schema } r.filter r.sorts = _ from hw)] at hq
    cases hq
  | ok written =>
    obtain ⟨text, -, hprobes⟩ := probes_of_write config hw
    rw [hprobes, probe] at hq
    split at hq
    · rw [List.mem_singleton.mp hq]
      rfl
    · cases hq

/-- So a plan keeps to the limits in all that it asks. -/
theorem probes_withinLimits :
    ∀ c ∈ (probes { config, schema } r).map Call.query, c.WithinLimits :=
  List.forall_mem_map.mpr fun q hq => EngineQuery.withinLimits (probes_timeAllowed q hq)

/-- The queries of a request are the probe and those that have its time, unless it asks for
completions. -/
theorem Routed.timeAllowed {svc : Service} {asked : List EngineQuery}
    {out : Except Failure Response} (h : Routed svc r s asked out)
    (hno : ∀ c, ¬ r.Completes c) :
    ∃ front timed, asked = front ++ timed ∧ (front = [] ∨ front = svc.probes r) ∧
      ∀ q ∈ timed, q.timeAllowed = allowedTime svc.config.search.timeAllowed r.timeout := by
  cases h with
  | refused _ => exact ⟨[], [], rfl, .inl rfl, List.forall_mem_nil _⟩
  | completed _ hc => exact absurd hc (hno _)
  | unplanned _ _ _ => exact ⟨_, [], (List.append_nil _).symm, .inr rfl, List.forall_mem_nil _⟩
  | lookedUp _ _ hp _ =>
    refine ⟨_, _, rfl, .inr rfl, fun q hq => ?_⟩
    rw [List.mem_singleton.mp hq]
    exact planned_timeAllowed hp
  | counted _ _ hp _ hpasses =>
    refine ⟨_, _, rfl, .inr rfl, fun q hq => ?_⟩
    rw [hpasses.timeAllowed q hq, countedQuery_timeAllowed]
    exact planned_timeAllowed hp

/-- The queries of a request are within the limits if the time of the settings is. -/
theorem Routed.withinLimits {asked : List EngineQuery} {out : Except Failure Response}
    (h : Routed { config, schema } r s asked out)
    (htime : config.search.timeAllowed.toNat ≤ 2147483647) :
    ∀ c ∈ asked.map Call.query, c.WithinLimits := by
  intro c hc
  obtain ⟨q, hq, rfl⟩ := List.mem_map.mp hc
  -- completions have no time at all; else the probe has none, and the rest that of the request
  by_cases hcompletes : ∃ completion, r.Completes completion
  · obtain ⟨completion, hcompletion⟩ := hcompletes
    by_cases hstart : r.startIndex < 1
    · rw [(h.of_refused hstart).1] at hq
      cases hq
    · rw [h.of_completes hstart hcompletion] at hq
      rw [List.mem_singleton.mp hq]
      exact EngineQuery.withinLimits completion.engineQuery_timeAllowed
  · obtain ⟨front, timed, rfl, hfront, htimed⟩ :=
      h.timeAllowed fun completion hcompletion => hcompletes ⟨completion, hcompletion⟩
    rcases List.mem_append.mp hq with hq | hq
    · rcases hfront with rfl | rfl
      · cases hq
      · exact EngineQuery.withinLimits (probes_timeAllowed q hq)
    · intro time heq
      rw [htimed q hq] at heq
      exact (allowedTime_isBudget _ _).range htime heq

/-- No request comes to batches of nothing. -/
theorem Ending.batches {svc : Service} {asked : List EngineQuery} {out : Except Failure Response}
    (h : Ending svc r s asked out) : out ≠ .error (.defect .emptyBatches) := by
  rintro rfl
  cases h

/-- All queries of a request have its time, but for the one that counts all records. -/
theorem Routed.isBudget {svc : Service} {asked : List EngineQuery} {out : Except Failure Response}
    (h : Routed svc r s asked out) (hno : ∀ c, ¬ r.Completes c) (n : Nat) (q : EngineQuery)
    (hn : (asked.map Call.query)[n]? = some (.query q))
    (hfirst : AsksAll svc.config.search r.pageSize → n ≠ 0) :
    IsBudget svc.config.search.timeAllowed r.timeout q.timeAllowed := by
  obtain ⟨front, timed, rfl, hfront, htimed⟩ := h.timeAllowed hno
  rw [List.getElem?_map] at hn
  obtain ⟨q', hq', heq⟩ := Option.map_eq_some_iff.mp hn
  obtain rfl : q' = q := Call.query.inj heq
  have hmem : q' ∈ timed := by
    have hle : front.length ≤ n := by
      rcases hfront with rfl | rfl
      · exact Nat.zero_le n
      · -- a probe is the only query before them, and only a page of all records has one
        by_cases hall : svc.wantsAll r = true
        · have hpos := hfirst (wantsAll_iff.mp hall)
          have hlength := Routed.length_probes_le svc r
          omega
        · have hnone : svc.probes r = [] := by
            unfold probes
            split
            · exact if_neg hall
            · rfl
          rw [hnone]
          exact Nat.zero_le n
    rw [List.getElem?_append_right hle] at hq'
    exact List.mem_of_getElem? hq'
  rw [htimed q' hmem]
  exact allowedTime_isBudget _ _

end Search

/-! ## One operation -/

/-- One operation of a session, with the calls that it sent and its answer. -/
structure Step where
  op : Operation
  sent : List Call
  answer : Except Failure Answer

/-- The step keeps to the limits, and its queries have the time that the settings and the request
allow. -/
structure Step.IsLimited (c : SearchConfig) (step : Step) : Prop where
  keeps : KeepsLimits step.sent step.answer
  /-- All queries for the records of a page have its time. The only other query is the first one of
  a page of all records, which counts them. -/
  searched : ∀ r, step.op = .search r → (∀ completion, ¬ r.Completes completion) →
    ∀ n q, step.sent[n]? = some (.query q) → (AsksAll c r.pageSize → n ≠ 0) →
      IsBudget c.timeAllowed r.timeout q.timeAllowed
  /-- A plan has the time of its request. -/
  planned : ∀ r p, step.op = .plan r → step.answer = .ok (.planned p) →
    IsBudget c.timeAllowed r.timeout p.query.timeAllowed

/-- An operation keeps to the limits in a session, whatever calls that takes. -/
def IsLimited (svc : Service) (op : Operation) (s : Session) : Prop :=
  ∃ sent answer, (svc.run op).Does s sent answer ∧
    Step.IsLimited svc.config.search ⟨op, sent, answer⟩

/-- Operations other than searches and plans have no times of their own. -/
theorem isLimited_of_keeps {svc : Service} {op : Operation} {s : Session} {sent : List Call}
    {answer : Except Failure Answer} (hdoes : (svc.run op).Does s sent answer)
    (hkeeps : KeepsLimits sent answer) (hsearch : ∀ r, op ≠ .search r) (hplan : ∀ r, op ≠ .plan r) :
    svc.IsLimited op s :=
  ⟨sent, answer, hdoes, hkeeps, fun r h => absurd h (hsearch r), fun r _ h => absurd h (hplan r)⟩

/-- Plans have the time of their request. -/
theorem isLimited_of_planned {svc : Service} {r : Request} {s : Session} {sent : List Call}
    {out : Except Failure PlannedQuery} (hdoes : (svc.plan r).Does s sent out)
    (hkeeps : KeepsLimits sent out)
    (hbudget : ∀ p, out = .ok p →
      IsBudget svc.config.search.timeAllowed r.timeout p.query.timeAllowed) :
    svc.IsLimited (.plan r) s := by
  refine ⟨sent, _, hdoes.map Answer.planned, hkeeps.map _, fun _ h => (nomatch h), ?_⟩
  intro r' p hr hp
  obtain rfl := Operation.plan.inj hr
  cases out with
  | error failure => exact nomatch hp
  | ok p' =>
    obtain rfl := Answer.planned.inj (Except.ok.inj hp)
    exact hbudget p' rfl

section Operations

variable {config : Config} {schema : Schema}

/-- Searches keep to the limits. -/
theorem isLimited_search (htime : config.search.timeAllowed.toNat ≤ 2147483647) (r : Request)
    (s : Session) : IsLimited { config, schema } (.search r) s := by
  obtain ⟨asked, out, hrouted, hrun⟩ := search_runs { config, schema } r s
  have hkeeps : KeepsLimits (asked.map Call.query) out :=
    ⟨hrouted.withinLimits htime, (ending_of_routed hrouted).batches⟩
  refine ⟨_, _, hrun.does.map Answer.response, hkeeps.map _, ?_, ?_⟩
  · intro r' hr hno
    cases hr
    exact hrouted.isBudget hno
  · intro r' p hr
    cases hr

/-- Plans keep to the limits. -/
theorem isLimited_plan (r : Request) (s : Session) :
    IsLimited { config, schema } (.plan r) s := by
  by_cases hstart : r.startIndex < 1
  · have hcheck := r.checkStart_runs s
    rw [if_pos hstart] at hcheck
    have hrun : (plan { config, schema } r).Runs s []
        (.error (.invalidRequest (.startIndex r.startIndex))) := hcheck.bind_error _
    exact isLimited_of_planned hrun.does (.of_nil nofun) fun p hp => nomatch hp
  · have hrun := plan_runs { config, schema } hstart s
    refine isLimited_of_planned hrun.does ⟨probes_withinLimits, ?_⟩ ?_
    · intro hp
      exact (unplanned_ending hp).batches rfl
    · intro p hp
      rw [planned_timeAllowed hp]
      exact allowedTime_isBudget _ _

/-- Searches for a raw text are not bounded in time. -/
theorem isLimited_searchText (svc : Service) (text : String) (s : Session) :
    svc.IsLimited (.searchText text) s := by
  have hrun : (svc.searchText text).Runs s [EngineQuery.ofText text] _ :=
    (ServiceM.search_runs (.ofText text) s).bind_last fun answer s' =>
      runs_ofFault (svc.schema.metacards answer.docs) s'
  have hcalls : ∀ c ∈ [EngineQuery.ofText text].map Call.query, c.WithinLimits :=
    List.forall_mem_singleton.mpr (EngineQuery.withinLimits rfl)
  refine isLimited_of_keeps (hrun.does.map Answer.metacards) (KeepsLimits.map ?_ _) nofun nofun
  cases s.reply 0 with
  | error reason => exact ⟨hcalls, nofun⟩
  | ok answer => exact .of_fault hcalls _

/-- Records are looked up in batches of something. -/
theorem isLimited_fetch {svc : Service} (hlimit : 0 < svc.config.search.lookupLimit)
    (ids : List String) (s : Session) : svc.IsLimited (.fetch ids) s := by
  by_cases h : s.lookupsFail = true ∧ ids ≠ []
  · obtain ⟨first, rest, -, hsends⟩ := fetch_sends_error hlimit h.1 h.2
    exact isLimited_of_keeps (hsends.does.map Answer.metacards)
      ⟨List.forall_mem_singleton.mpr trivial, nofun⟩ nofun nofun
  · have hfound : s.lookupsFail = false ∨ ids = [] := by
      by_cases hids : ids = []
      · exact .inr hids
      · exact .inl (Bool.eq_false_iff.mpr fun hfail => h ⟨hfail, hids⟩)
    refine isLimited_of_keeps ((fetch_sends hlimit hfound).does.map Answer.metacards)
      (KeepsLimits.map (.of_fault ?_ _) _) nofun nofun
    exact List.forall_mem_map.mpr fun batch _ => trivial

/-- Counting the kinds of content takes one query at most, and never fails. -/
theorem contentTypes_does (svc : Service) (s : Session) :
    ∃ sent types, (svc.contentTypes).Does s sent (.ok types) ∧ ∀ c ∈ sent, c.WithinLimits := by
  cases hquery : contentTypeQuery? svc.schema with
  | none =>
    have hrun : svc.contentTypes = pure [] := by
      unfold contentTypes
      rw [hquery]
    rw [hrun]
    exact ⟨[], [], (sends_pure _ s).does, List.forall_mem_nil _⟩
  | some q =>
    have hrun : ∃ types, (svc.contentTypes).run s = (.ok types, (Session.ask q s).2) := by
      unfold contentTypes ExceptT.run
      rw [hquery]
      dsimp only
      cases Session.ask q s with
      | mk reply after => cases reply <;> exact ⟨_, rfl⟩
    have htime : q.timeAllowed = none := by
      unfold contentTypeQuery? at hquery
      dsimp only at hquery
      split at hquery
      · cases hquery
        rfl
      · cases hquery
    obtain ⟨types, hrun⟩ := hrun
    refine ⟨[.query q], types, ⟨congrArg Prod.fst hrun, ?_⟩, ?_⟩
    · rw [hrun]
      exact (Session.ask_asks q s).2.calls
    · exact List.forall_mem_singleton.mpr (EngineQuery.withinLimits htime)

/-- The kinds of content are counted without a bound on the time. -/
theorem isLimited_contentTypes (svc : Service) (s : Session) :
    svc.IsLimited .contentTypes s := by
  obtain ⟨sent, types, hdoes, hcalls⟩ := svc.contentTypes_does s
  exact isLimited_of_keeps (hdoes.map Answer.contentTypes) (.of_ok hcalls _) nofun nofun

/-- The time within which stored documents are found is that of the settings. -/
theorem StoresBy.withinLimits {c : CommitConfig} {records : List Metacard} {force : Bool}
    {call : List Document → Call} (h : StoresBy c records force call)
    (htime : c.promptWithin.toNat ≤ 2147483647) (docs : List Document) :
    (call docs).WithinLimits := by
  cases h with
  | committed _ => trivial
  | bounded _ _ _ =>
    intro time heq
    rw [← Option.some.inj heq]
    exact htime
  | scheduled _ _ => exact nofun

/-- Records with documents are written by one call. -/
theorem store_of_documents {svc : Service} {records : List Metacard} (hne : records ≠ [])
    {docs : List Document} (hdocs : records.mapM svc.schema.document = .ok docs) (force : Bool)
    (s : Session) :
    (svc.store records force).Sends s [storeCall docs (.of svc.config.commit records force)]
      (if s.writesFail then .error (.backend Session.writeReason) else .ok docs) := by
  have hwrite := write_sends (storeCall docs (.of svc.config.commit records force)) s
  rw [store_of_ne_nil hne, hdocs]
  refine (sends_pure docs s).bind_silent ?_
  by_cases hfail : s.writesFail = true
  · rw [if_pos hfail] at hwrite ⊢
    exact hwrite.bind_error _
  · rw [if_neg hfail] at hwrite ⊢
    exact hwrite.bind_last (sends_pure _ _)

/-- Writes of records keep to the limits. -/
theorem isLimited_store {svc : Service} (htime : svc.config.commit.promptWithin.toNat ≤ 2147483647)
    (records : List Metacard) (force : Bool) (s : Session) :
    svc.IsLimited (.store records force) s := by
  by_cases hne : records = []
  · subst hne
    exact isLimited_of_keeps ((store_nil svc force s).does.map Answer.documents)
      (.of_nil nofun) nofun nofun
  cases hdocs : records.mapM svc.schema.document with
  | error fault =>
    have hsends : (svc.store records force).Sends s [] (.error (.metacardCreation fault)) := by
      rw [store_of_ne_nil hne, hdocs]
      exact (sends_throw _ s).bind_error _
    exact isLimited_of_keeps (hsends.does.map Answer.documents) (.of_nil nofun) nofun nofun
  | ok docs =>
    have hsends := store_of_documents hne hdocs force s
    have hcall := (storesBy_visibility svc.config.commit records force).withinLimits htime docs
    refine isLimited_of_keeps (hsends.does.map Answer.documents)
      (KeepsLimits.map ⟨List.forall_mem_singleton.mpr hcall, ?_⟩ _) nofun nofun
    split <;> exact nofun

/-- Deletions have no numbers. -/
theorem deletions_withinLimits (limit : Nat) (field : String) (ids : List String) :
    ∀ c ∈ deletions limit field ids, c.WithinLimits := by
  unfold deletions
  split
  · exact List.forall_mem_singleton.mpr trivial
  · exact List.forall_mem_map.mpr fun group _ => trivial

/-- Identifiers are deleted in batches of something. -/
theorem isLimited_remove {svc : Service} (hlimit : 0 < svc.config.search.clauseLimit)
    (field : String) (ids : List String) (force : Bool) (s : Session) :
    svc.IsLimited (.remove field ids force) s := by
  have hdeletions := deletions_withinLimits svc.config.search.clauseLimit field ids
  by_cases hids : ids = []
  · subst hids
    exact isLimited_of_keeps ((remove_nil svc field force s).does.map fun _ => Answer.done)
      (.of_nil nofun) nofun nofun
  by_cases hfail : s.writesFail = true
  · obtain ⟨first, rest, hcalls, hsends⟩ := remove_sends_error hlimit hids force hfail
    have hfirst : first.WithinLimits := hdeletions first (hcalls ▸ List.mem_cons_self)
    exact isLimited_of_keeps (hsends.does.map fun _ => Answer.done)
      ⟨List.forall_mem_singleton.mpr hfirst, nofun⟩ nofun nofun
  · have hsends : (svc.remove field ids force).Sends s _ (.ok ()) :=
      remove_sends hlimit hids force (Bool.eq_false_iff.mpr hfail)
    refine isLimited_of_keeps (hsends.does.map fun _ => Answer.done)
      ⟨List.forall_mem_append.mpr ⟨hdeletions, ?_⟩, nofun⟩ nofun nofun
    -- after the deletions there is only the commit, if it is wanted
    cases force with
    | false => exact List.forall_mem_nil _
    | true => exact List.forall_mem_singleton.mpr trivial

/-- Records that a text matches are deleted by one call. -/
theorem isLimited_removeMatching (svc : Service) (text : String) (s : Session) :
    svc.IsLimited (.removeMatching text) s := by
  have hsends : (removeMatching text).Sends s _ _ := write_sends (.removeMatching text) s
  refine isLimited_of_keeps (hsends.does.map fun _ => Answer.done) (KeepsLimits.map ⟨?_, ?_⟩ _)
    nofun nofun
  · exact List.forall_mem_singleton.mpr trivial
  · split <;> exact nofun

/-- With settings without a fault, every operation keeps to the limits. -/
theorem run_limits (hvalid : config.fault? = none) (op : Operation) (s : Session) :
    IsLimited { config, schema } op s := by
  obtain ⟨hlookup, hclause, htime, hprompt⟩ := Config.fault?_eq_none_iff.mp hvalid
  cases op with
  | search r => exact isLimited_search htime r s
  | plan r => exact isLimited_plan r s
  | searchText text => exact isLimited_searchText _ text s
  | fetch ids => exact isLimited_fetch hlookup ids s
  | contentTypes => exact isLimited_contentTypes _ s
  | store records force => exact isLimited_store hprompt records force s
  | remove field ids force => exact isLimited_remove hclause field ids force s
  | removeMatching text => exact isLimited_removeMatching _ text s

end Operations

/-! ## Sessions -/

/-- The steps lead from one session to another, each from where the one before it ended. -/
inductive Carries (svc : Service) : Session → List Step → Session → Prop where
  | nil {s : Session} : Carries svc s [] s
  | cons {s between after : Session} {step : Step} {steps : List Step}
    (hrun : (svc.run step.op).run s = (step.answer, between))
    (hsent : between.calls = s.calls ++ step.sent) (hrest : Carries svc between steps after) :
    Carries svc s (step :: steps) after

/-- **Settings without a fault are safe.** Every session falls into one step for each operation.
No step cuts a list into batches of nothing, none sends a number beyond what the engine understands,
and the time of a query is the least that the settings and its request allow. -/
theorem runAll_limits (config : Config) (schema : Schema) (hvalid : config.fault? = none)
    (ops : List Operation) (s : Session) :
    ∃ steps after, runAll { config, schema } ops s = (steps.map Step.answer, after) ∧
      steps.map Step.op = ops ∧ Carries { config, schema } s steps after ∧
      ∀ step ∈ steps, step.IsLimited config.search := by
  -- on the operations, for all sessions: each starts where the one before it ended
  induction ops generalizing s with
  | nil => exact ⟨[], s, rfl, rfl, .nil, List.forall_mem_nil _⟩
  | cons op ops ih =>
    have hop : IsLimited { config, schema } op s := run_limits hvalid op s
    obtain ⟨sent, answer, hdoes, hlimited⟩ := hop
    obtain ⟨between, hrun⟩ : ∃ between, (run { config, schema } op).run s = (answer, between) :=
      ⟨_, Prod.ext hdoes.outcome rfl⟩
    have hsent := hdoes.calls
    rw [hrun] at hsent
    obtain ⟨steps, after, hall, hops, hcarries, hsteps⟩ := ih between
    refine ⟨⟨op, sent, answer⟩ :: steps, after, ?_, ?_, .cons hrun hsent hcarries, ?_⟩
    · unfold runAll
      rw [hrun]
      dsimp only
      rw [hall]
      rfl
    · rw [List.map_cons, hops]
    · intro step hstep
      rcases List.mem_cons.mp hstep with rfl | hstep
      · exact hlimited
      · exact hsteps step hstep

/-- Settings that bound queries to a quarter of a second. -/
def quarterSecond : Config where
  search := { timeAllowed := 250 }

/-- A search for all records that waits for some time. -/
def waitingSearch (timeout : UInt64) : Operation :=
  .search { openEndedRequest with timeout := some timeout }

theorem runAll_limits_waiting :
    quarterSecond.fault? = none ∧
      ∃ steps after, runAll { config := quarterSecond, schema := Resource.schema.schema }
          [waitingSearch 100, waitingSearch 18446744073709551615] {} =
          (steps.map Step.answer, after) ∧
        Carries { config := quarterSecond, schema := Resource.schema.schema } {} steps after ∧
        (∀ step ∈ steps, step.IsLimited quarterSecond.search) ∧
        after.queries.map EngineQuery.timeAllowed = [none, some 100, none, some 250] := by
  have hvalid : quarterSecond.fault? = none := by decide
  obtain ⟨steps, after, hall, -, hcarries, hsteps⟩ :=
    runAll_limits quarterSecond Resource.schema.schema hvalid
      [waitingSearch 100, waitingSearch 18446744073709551615] {}
  have htimes : (runAll { config := quarterSecond, schema := Resource.schema.schema }
      [waitingSearch 100, waitingSearch 18446744073709551615] {}).2.queries.map
      EngineQuery.timeAllowed = [none, some 100, none, some 250] := rfl
  rw [hall] at htimes
  exact ⟨hvalid, steps, after, hall, hcarries, hsteps, htimes⟩

end Service

end CatalogSearch
