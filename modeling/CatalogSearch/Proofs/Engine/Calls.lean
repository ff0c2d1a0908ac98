import CatalogSearch.Proofs.Engine.Dialogue
import CatalogSearch.Proofs.Outcomes

/-!
# Lookups and writes

Queries use up the script of a session. Lookups and writes leave the session as it was but for its
calls, and whether they fail is settled before the first of them. So a row of them is carried out
as a whole or stops at its first call.

- `Session.recordAll`: a session with some calls more.
- `ServiceM.Sends`: an action comes to an outcome, and its calls are all that changes.
- `Sends.bind`, `Sends.bind_error`: two actions, one after the other.
- `mapM_lookup_sends`, `forM_write_sends`: a row of lookups and a row of writes, when they fail and
  when they do not.
-/

namespace CatalogSearch

namespace Session

/-- The session after some calls more. -/
def recordAll (s : Session) (sent : List Call) : Session :=
  { s with calls := s.calls ++ sent }

@[simp] theorem recordAll_nil (s : Session) : s.recordAll [] = s := by
  unfold recordAll
  rw [List.append_nil]

theorem recordAll_append (s : Session) (first second : List Call) :
    s.recordAll (first ++ second) = (s.recordAll first).recordAll second := by
  unfold recordAll
  rw [List.append_assoc]

end Session

namespace ServiceM

variable {α β : Type}

/-- The action comes to `out`, and all that it changes in the session are the calls, by those that
it sends. -/
def Sends (act : ServiceM α) (s : Session) (sent : List Call) (out : Except Failure α) : Prop :=
  act.run s = (out, s.recordAll sent)

theorem sends_pure (x : α) (s : Session) : (pure x : ServiceM α).Sends s [] (.ok x) :=
  congrArg (Prod.mk _) s.recordAll_nil.symm

theorem sends_throw (failure : Failure) (s : Session) :
    (throw failure : ServiceM α).Sends s [] (.error failure) :=
  congrArg (Prod.mk _) s.recordAll_nil.symm

theorem sends_ofFault (result : Except MetacardFault α) (s : Session) :
    (ofFault result).Sends s [] (result.mapError Failure.metacardCreation) := by
  cases result with
  | ok x => exact sends_pure x s
  | error fault => exact sends_throw (.metacardCreation fault) s

/-! ## Actions in a row -/

variable {s : Session} {first second sent : List Call} {failure : Failure}

/-- The calls of the second action come after those of the first. -/
theorem Sends.bind {act : ServiceM α} {next : α → ServiceM β} {x : α} {out : Except Failure β}
    (h : act.Sends s first (.ok x)) (h' : (next x).Sends (s.recordAll first) second out) :
    (act >>= next).Sends s (first ++ second) out := by
  unfold Sends
  rw [bind_run_of_ok h, h', Session.recordAll_append]

/-- Nothing is sent after a failure. -/
theorem Sends.bind_error {act : ServiceM α} (h : act.Sends s sent (.error failure))
    (next : α → ServiceM β) : (act >>= next).Sends s sent (.error failure) :=
  bind_run_of_error h

/-- An action followed by one that sends nothing. -/
theorem Sends.bind_last {act : ServiceM α} {next : α → ServiceM β} {x : α}
    {out : Except Failure β} (h : act.Sends s sent (.ok x))
    (h' : (next x).Sends (s.recordAll sent) [] out) : (act >>= next).Sends s sent out := by
  have hboth := h.bind h'
  rwa [List.append_nil] at hboth

/-- An action after one that sends nothing. -/
theorem Sends.bind_silent {act : ServiceM α} {next : α → ServiceM β} {x : α}
    {out : Except Failure β} (h : act.Sends s [] (.ok x)) (h' : (next x).Sends s sent out) :
    (act >>= next).Sends s sent out := by
  refine Sends.bind h ?_
  rwa [Session.recordAll_nil]

/-! ## Lookups -/

theorem lookup_sends (ids : List String) (s : Session) :
    (lookup ids).Sends s [.lookup ids] (if s.lookupsFail
      then .error (.unsupportedQuery .search (.engine Session.lookupReason))
      else .ok (ids.filterMap s.documents.get?)) := by
  unfold Sends lookup
  rw [run_ofEngine]
  unfold Session.lookup
  cases s.lookupsFail <;> rfl

/-- Lookups that do not fail find the documents of each batch. -/
theorem mapM_lookup_sends (h : s.lookupsFail = false) (groups : List (List String)) :
    (groups.mapM lookup).Sends s (groups.map Call.lookup)
      (.ok (groups.map fun ids => ids.filterMap s.documents.get?)) := by
  induction groups generalizing s with
  | nil => exact sends_pure [] s
  | cons ids groups ih =>
    have hfirst := lookup_sends ids s
    rw [h] at hfirst
    have hrest := ih (s := s.recordAll [.lookup ids]) h
    rw [List.mapM_cons]
    exact hfirst.bind (hrest.bind_last (sends_pure _ _))

/-- Lookups that fail end with the first batch. -/
theorem mapM_lookup_sends_error (h : s.lookupsFail = true) (ids : List String)
    (groups : List (List String)) :
    ((ids :: groups).mapM lookup).Sends s [.lookup ids]
      (.error (.unsupportedQuery .search (.engine Session.lookupReason))) := by
  have hfirst := lookup_sends ids s
  rw [h] at hfirst
  rw [List.mapM_cons]
  exact hfirst.bind_error _

/-! ## Writes -/

theorem write_sends (c : Call) (s : Session) :
    (write c).Sends s [c] (if s.writesFail
      then .error (.backend Session.writeReason) else .ok ()) := by
  unfold Sends write
  rw [run_ofEngine]
  unfold Session.write
  cases s.writesFail <;> rfl

/-- Writes that do not fail are all sent. -/
theorem forM_write_sends (h : s.writesFail = false) (calls : List Call) :
    (calls.forM write).Sends s calls (.ok ()) := by
  induction calls generalizing s with
  | nil => exact sends_pure () s
  | cons c calls ih =>
    have hfirst := write_sends c s
    rw [h] at hfirst
    exact hfirst.bind (ih (s := s.recordAll [c]) h)

/-- Writes that fail end with the first one. -/
theorem forM_write_sends_error (h : s.writesFail = true) (c : Call) (calls : List Call) :
    ((c :: calls).forM write).Sends s [c] (.error (.backend Session.writeReason)) := by
  have hfirst := write_sends c s
  rw [h] at hfirst
  exact hfirst.bind_error _

end ServiceM

end CatalogSearch
