import CatalogSearch.Service.Basic

/-!
# Dialogues with the engine

Serving a request is a dialogue: queries go out one after the other, and the
session answers each from its script. A proof about the service only needs the
queries that were asked and the replies that came back.

- `Session.reply n`: the answer to the query that follows `n` others.
- `Session.Asks`: a session after some queries; its calls grew by exactly these.
- `ServiceM.Runs`: an action comes to an outcome after asking some queries.
- `Runs.bind`: two actions in a row ask the queries of the first, then those of
  the second. The specification of every action that talks to the engine is
  assembled with it, and later proofs do not look at a session again.
-/

namespace CatalogSearch

namespace Session

/-- The answer to a query that `n` other queries come before. -/
def reply (s : Session) (n : Nat) : Except String EngineResponse :=
  match s.script[n]? with
  | some (.respond r) => .ok r
  | some (.fail reason) => .error reason
  | none => .ok (.ofDocuments [] 0)

/-- `s'` is a session that was at `s` before the queries `asked`: these are the
only new calls, and each took one answer off the script. -/
structure Asks (s : Session) (asked : List EngineQuery) (s' : Session) : Prop where
  calls : s'.calls = s.calls ++ asked.map Call.query
  script : s'.script = s.script.drop asked.length

theorem Asks.refl (s : Session) : s.Asks [] s :=
  ⟨(List.append_nil _).symm, rfl⟩

/-- Queries after queries. -/
theorem Asks.trans {s s' s'' : Session} {first second : List EngineQuery}
    (h : s.Asks first s') (h' : s'.Asks second s'') :
    s.Asks (first ++ second) s'' := by
  constructor
  · rw [h'.calls, h.calls, List.map_append, List.append_assoc]
  · rw [h'.script, h.script, List.drop_drop, List.length_append]

/-- The replies go on where the queries before them left off. -/
theorem Asks.reply {s s' : Session} {asked : List EngineQuery}
    (h : s.Asks asked s') (n : Nat) : s'.reply n = s.reply (asked.length + n) := by
  unfold Session.reply
  rw [h.script, List.getElem?_drop]

/-- A query adds its call and gets the next reply. -/
theorem ask_asks (q : EngineQuery) (s : Session) :
    (ask q s).1 = s.reply 0 ∧ s.Asks [q] (ask q s).2 := by
  obtain ⟨calls, script, documents, lookupsFail, writesFail, filtersWritten⟩ := s
  cases script with
  -- at its end the script answers that nothing is found, and stays empty
  | nil => exact ⟨rfl, rfl, rfl⟩
  | cons answer rest =>
    cases answer with
    | respond r => exact ⟨rfl, rfl, rfl⟩
    | fail reason => exact ⟨rfl, rfl, rfl⟩

end Session

namespace ServiceM

variable {α β : Type}

/-- The action comes to `out`, and `asked` are the queries it sends on the way. -/
structure Runs (act : ServiceM α) (s : Session) (asked : List EngineQuery)
    (out : Except Failure α) : Prop where
  outcome : (act.run s).1 = out
  asks : s.Asks asked (act.run s).2

/-! ## Actions that ask nothing -/

theorem runs_pure (x : α) (s : Session) :
    (pure x : ServiceM α).Runs s [] (.ok x) :=
  ⟨rfl, .refl s⟩

theorem runs_throw (failure : Failure) (s : Session) :
    (throw failure : ServiceM α).Runs s [] (.error failure) :=
  ⟨rfl, .refl s⟩

theorem runs_ofExcept (result : Except Failure α) (s : Session) :
    (ofExcept result).Runs s [] result := by
  cases result with
  | ok x => exact runs_pure x s
  | error failure => exact runs_throw failure s

theorem runs_ofFault (result : Except MetacardFault α) (s : Session) :
    (ofFault result).Runs s [] (result.mapError Failure.metacardCreation) := by
  cases result with
  | ok x => exact runs_pure x s
  | error fault => exact runs_throw (.metacardCreation fault) s

/-! ## Actions in a row -/

/-- The second action goes on in the session that the first one left. -/
theorem Runs.bind_run {act : ServiceM α} {next : α → ServiceM β} {s : Session}
    {first second : List EngineQuery} {x : α} {out : Except Failure β}
    (h : act.Runs s first (.ok x)) (h' : (next x).Runs (act.run s).2 second out) :
    (act >>= next).Runs s (first ++ second) out := by
  have hrun : (act >>= next).run s = ((next x).run (act.run s).2) := by
    show ExceptT.bindCont next (act.run s).1 (act.run s).2 = _
    rw [h.outcome]
    rfl
  constructor
  · rw [hrun]
    exact h'.outcome
  · rw [hrun]
    exact h.asks.trans h'.asks

/-- The second action goes on in any session of which the queries of the first are
known. -/
theorem Runs.bind {act : ServiceM α} {next : α → ServiceM β} {s : Session}
    {first second : List EngineQuery} {x : α} {out : Except Failure β}
    (h : act.Runs s first (.ok x))
    (h' : ∀ s', s.Asks first s' → (next x).Runs s' second out) :
    (act >>= next).Runs s (first ++ second) out :=
  h.bind_run (h' _ h.asks)

/-- Nothing follows a failure. -/
theorem Runs.bind_error {act : ServiceM α} (next : α → ServiceM β) {s : Session}
    {asked : List EngineQuery} {failure : Failure}
    (h : act.Runs s asked (.error failure)) :
    (act >>= next).Runs s asked (.error failure) := by
  have hrun : (act >>= next).run s = (.error failure, (act.run s).2) := by
    show ExceptT.bindCont next (act.run s).1 (act.run s).2 = _
    rw [h.outcome]
    rfl
  constructor
  · rw [hrun]
  · rw [hrun]
    exact h.asks

/-- An action after one that asks nothing. -/
theorem Runs.bind_silent {act : ServiceM α} {next : α → ServiceM β} {s : Session}
    {asked : List EngineQuery} {x : α} {out : Except Failure β}
    (h : act.Runs s [] (.ok x))
    (h' : ∀ s', s.Asks [] s' → (next x).Runs s' asked out) :
    (act >>= next).Runs s asked out :=
  h.bind h'

/-- An action followed by one that asks nothing. -/
theorem Runs.bind_last {act : ServiceM α} {next : α → ServiceM β} {s : Session}
    {asked : List EngineQuery} {out : Except Failure α} {result : α → Except Failure β}
    (h : act.Runs s asked out) (h' : ∀ x s', (next x).Runs s' [] (result x)) :
    (act >>= next).Runs s asked (out.bind result) := by
  cases out with
  | error failure => exact h.bind_error next
  | ok x =>
    have hrun := h.bind fun s' _ => h' x s'
    rwa [List.append_nil] at hrun

/-! ## Actions that ask one query -/

/-- The engine's result with its failure put into words, in the engine's session. -/
theorem run_ofEngine (failure : String → Failure) (act : StateM Session (Except String α))
    (s : Session) :
    (ofEngine failure act).run s = ((act s).1.mapError failure, (act s).2) := by
  show ofEngine failure act s = _
  unfold ofEngine
  cases act s with
  | mk result s' => cases result <;> rfl

theorem runs_ofEngine (failure : String → Failure) (q : EngineQuery) (s : Session) :
    (ofEngine failure (Session.ask q)).Runs s [q] ((s.reply 0).mapError failure) := by
  obtain ⟨hreply, hasks⟩ := Session.ask_asks q s
  constructor
  · rw [run_ofEngine, hreply]
  · rw [run_ofEngine]
    exact hasks

/-- What the service makes of a reply to a search. -/
def searched (reply : Except String EngineResponse) : Except Failure EngineResponse :=
  reply.mapError fun reason => .unsupportedQuery .search (.engine reason)

/-- What the service makes of a reply to a probe. -/
def probed (reply : Except String EngineResponse) : Except Failure EngineResponse :=
  reply.mapError fun reason => .unsupportedQuery .rowCount (.engine reason)

theorem search_runs (q : EngineQuery) (s : Session) :
    (search q).Runs s [q] (searched (s.reply 0)) :=
  runs_ofEngine _ q s

theorem probe_runs (q : EngineQuery) (s : Session) :
    (probe q).Runs s [q] (probed (s.reply 0)) :=
  runs_ofEngine _ q s

end ServiceM

/-- Writing a filter asks nothing; only the count of written filters moves. -/
theorem Service.writeFilter_runs (svc : Service) (f : Filter) (sorts : List SortBy)
    (s : Session) : (svc.writeFilter f sorts).Runs s [] (svc.writer f sorts) := by
  have hmodify : ServiceM.Runs (α := PUnit)
      (modify fun s => { s with filtersWritten := s.filtersWritten + 1 }) s [] (.ok ⟨⟩) :=
    ⟨rfl, (List.append_nil _).symm, rfl⟩
  exact hmodify.bind_silent fun s' _ => ServiceM.runs_ofExcept _ s'

end CatalogSearch
