import CatalogSearch.Proofs.Service.Fetching

/-!
# Removing records by identifier

A removal is a row of deletions with a commit after it, if one is forced. Writes that fail end it
at the first deletion.

- `Service.Deletes`: the deletions for identifiers, in one call or batch by batch.
- `Service.deletions`: those that the service chooses.
- `Service.remove_sends`, `Service.remove_sends_error`: removals when writes fail and when they do
  not.
- `Service.remove_deletes`: what a removal sends, and what comes of it.
-/

namespace CatalogSearch

namespace Service

open ServiceM

/-- The calls that delete the records whose field has one of the identifiers. -/
inductive Deletes (limit : Nat) (field : String) (ids : List String) : List Call → Prop where
  /-- The engine knows its own identifiers. -/
  | direct (hfield : field = "id") : Deletes limit field ids [.remove ids]
  /-- Those of another field are matched, no more at a time than a query text may name. -/
  | matching (hfield : field ≠ "id") {groups : List (List String)}
    (hgroups : AreBatches limit ids groups) :
    Deletes limit field ids (groups.map fun group => .removeMatching (anyIdentifier field group))

/-- The deletions that the service chooses. -/
def deletions (limit : Nat) (field : String) (ids : List String) : List Call :=
  if field = Metacard.idAttribute then [.remove ids]
  else (batches limit ids).map fun group => .removeMatching (anyIdentifier field group)

variable {svc : Service} {field : String} {ids : List String} {limit : Nat} {s : Session}

theorem deletes_deletions (h : 0 < limit) (field : String) (ids : List String) :
    Deletes limit field ids (deletions limit field ids) := by
  unfold deletions
  split
  · next hfield => exact .direct hfield
  · next hfield => exact .matching hfield (areBatches_batches h ids)

/-- There is something to delete if there are identifiers. -/
theorem Deletes.ne_nil {calls : List Call} (h : Deletes limit field ids calls) (hne : ids ≠ []) :
    calls ≠ [] := by
  cases h with
  | direct _ => exact List.cons_ne_nil _ _
  | matching _ hgroups => exact fun hnil => hne (hgroups.eq_nil_iff.mp (List.map_eq_nil_iff.mp hnil))

/-- Choosing the deletions sends nothing yet. -/
theorem removeCalls_sends (hlimit : 0 < svc.config.search.clauseLimit) (s : Session) :
    (svc.removeCalls field ids).Sends s []
      (.ok (deletions svc.config.search.clauseLimit field ids)) := by
  unfold removeCalls deletions
  split
  · exact sends_pure _ s
  · exact (batched_sends hlimit ids s).bind_silent (sends_pure _ _)

/-- Without identifiers nothing is done. -/
theorem remove_nil (svc : Service) (field : String) (force : Bool) (s : Session) :
    (svc.remove field [] force).Sends s [] (.ok ()) :=
  sends_pure () s

/-- With identifiers, the deletions are written one after the other, and then the commit. -/
theorem remove_of_ne_nil (hne : ids ≠ []) (force : Bool) :
    svc.remove field ids force = (do
      let calls ← svc.removeCalls field ids
      calls.forM write
      if force then write .commit) := by
  unfold remove
  rw [if_neg fun h => hne (List.isEmpty_iff.mp h)]

/-- Writes that do not fail are all sent, a forced commit last. -/
theorem remove_sends (hlimit : 0 < svc.config.search.clauseLimit) (hne : ids ≠ []) (force : Bool)
    (h : s.writesFail = false) :
    (svc.remove field ids force).Sends s
      (deletions svc.config.search.clauseLimit field ids ++ if force then [Call.commit] else [])
      (.ok ()) := by
  rw [remove_of_ne_nil hne]
  refine (removeCalls_sends hlimit s).bind_silent ?_
  refine (forM_write_sends h _).bind ?_
  cases force with
  | false => exact sends_pure () _
  | true =>
    have hcommit := write_sends .commit
      (s.recordAll (deletions svc.config.search.clauseLimit field ids))
    rwa [show (s.recordAll _).writesFail = false from h] at hcommit

/-- Writes that fail end with the first deletion; there is no commit after it. -/
theorem remove_sends_error (hlimit : 0 < svc.config.search.clauseLimit) (hne : ids ≠ [])
    (force : Bool) (h : s.writesFail = true) :
    ∃ first rest, deletions svc.config.search.clauseLimit field ids = first :: rest ∧
      (svc.remove field ids force).Sends s [first] (.error (.backend Session.writeReason)) := by
  obtain ⟨first, rest, hcalls⟩ :=
    List.exists_cons_of_ne_nil ((deletes_deletions hlimit field ids).ne_nil hne)
  refine ⟨first, rest, hcalls, ?_⟩
  rw [remove_of_ne_nil hne]
  refine (removeCalls_sends hlimit s).bind_silent ?_
  rw [hcalls]
  exact (forM_write_sends_error h first rest).bind_error _

/-- How records are removed. -/
structure Removing (svc : Service) (field : String) (ids : List String) (force : Bool)
    (s : Session) : Prop where
  /-- Without identifiers nothing is sent, not even a forced commit. -/
  nothing : ids = [] → (svc.remove field ids force).Sends s [] (.ok ())
  /-- The identifiers are deleted as they stand, in one call or batch by batch. -/
  deletes : Deletes svc.config.search.clauseLimit field ids
    (deletions svc.config.search.clauseLimit field ids)
  /-- All deletions are sent, and the commit after them if it is forced. -/
  removed : ids ≠ [] → s.writesFail = false →
    (svc.remove field ids force).Sends s
      (deletions svc.config.search.clauseLimit field ids ++ if force then [Call.commit] else [])
      (.ok ())
  /-- A deletion that fails is the only call. -/
  failed : ids ≠ [] → s.writesFail = true →
    ∃ first rest, deletions svc.config.search.clauseLimit field ids = first :: rest ∧
      (svc.remove field ids force).Sends s [first] (.error (.backend Session.writeReason))

/-- **Removals are complete.** With room for clauses in a query text, every identifier is deleted,
none is left out, repeated or moved, and the commit follows only if every deletion succeeded. -/
theorem remove_deletes (svc : Service) (field : String) (ids : List String) (force : Bool)
    (s : Session) (hlimit : 0 < svc.config.search.clauseLimit) :
    Removing svc field ids force s where
  nothing := by
    rintro rfl
    exact remove_nil svc field force s
  deletes := deletes_deletions hlimit field ids
  removed hne := remove_sends hlimit hne force
  failed hne := remove_sends_error hlimit hne force

/-- A service whose query texts name two identifiers at most. -/
def twoClauseService : Service where
  config := { search := { clauseLimit := 2 } }
  schema := Resource.schema.schema

theorem remove_deletes_matching :
    0 < twoClauseService.config.search.clauseLimit ∧
      Removing twoClauseService "tags" ["a", "b", "a"] true {} ∧
      (twoClauseService.remove "tags" ["a", "b", "a"] true).Sends {}
        [.removeMatching "tags:\"a\" OR tags:\"b\"", .removeMatching "tags:\"a\"", .commit]
        (.ok ()) := by
  have hlimit : 0 < twoClauseService.config.search.clauseLimit := by decide
  have hremoving := remove_deletes twoClauseService "tags" ["a", "b", "a"] true {} hlimit
  exact ⟨hlimit, hremoving, hremoving.removed (List.cons_ne_nil _ _) rfl⟩

end Service

end CatalogSearch
