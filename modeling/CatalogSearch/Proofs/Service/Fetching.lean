import CatalogSearch.Proofs.Batches
import CatalogSearch.Proofs.Engine.Calls
import CatalogSearch.Schema.Resource
import CatalogSearch.Service.Records

/-!
# Fetching records by identifier

Identifiers are looked up in batches, but what comes of it does not depend on how they are cut.

- `Service.fetched`: what a fetch comes to, told without batches.
- `Service.fetch_sends`: the lookups of a fetch, which end with the first one that fails.
- `Service.fetch_batchless`: the batches, their documents, and that neither the length of the
  batches nor repeated identifiers change the outcome.
-/

namespace CatalogSearch

namespace Service

open ServiceM

/-- Lists are cut into batches if the batches have room. -/
theorem batched_sends {α : Type} {limit : Nat} (h : 0 < limit) (xs : List α) (s : Session) :
    (batched limit xs).Sends s [] (.ok (batches limit xs)) := by
  unfold batched
  rw [if_neg (Nat.ne_of_gt h)]
  exact sends_pure _ s

section Fetch

variable {svc : Service} {ids : List String} {s : Session}

/-- What a fetch comes to: the records of the documents that the distinct identifiers have, unless
lookups fail and there is something to look up. -/
def fetched (schema : Schema) (ids : List String) (s : Session) :
    Except Failure (List Metacard) :=
  if s.lookupsFail = true ∧ ids ≠ [] then
    .error (.unsupportedQuery .search (.engine Session.lookupReason))
  else
    (schema.metacards ((distinct ids).filterMap s.documents.get?)).mapError .metacardCreation

/-- Repeated identifiers change nothing. -/
theorem fetched_distinct (schema : Schema) (ids : List String) (s : Session) :
    fetched schema (distinct ids) s = fetched schema ids s := by
  unfold fetched
  simp only [distinct_distinct, ne_eq, distinct_eq_nil_iff]

/-- All batches are looked up, and their documents become the records. -/
theorem fetch_sends (hlimit : 0 < svc.config.search.lookupLimit)
    (h : s.lookupsFail = false ∨ ids = []) :
    (svc.fetch ids).Sends s
      ((batches svc.config.search.lookupLimit (distinct ids)).map Call.lookup)
      ((svc.schema.metacards ((distinct ids).filterMap s.documents.get?)).mapError
        .metacardCreation) := by
  refine (batched_sends hlimit _ s).bind_silent ?_
  have hpages : ((batches svc.config.search.lookupLimit (distinct ids)).mapM lookup).Sends s
      ((batches svc.config.search.lookupLimit (distinct ids)).map Call.lookup)
      (.ok ((batches svc.config.search.lookupLimit (distinct ids)).map
        fun batch => batch.filterMap s.documents.get?)) := by
    rcases h with h | rfl
    · exact mapM_lookup_sends h _
    · exact sends_pure [] s
  refine hpages.bind_last ?_
  rw [← List.filterMap_flatten, (areBatches_batches hlimit _).flatten]
  exact sends_ofFault _ _

/-- Lookups that fail end with the first batch. -/
theorem fetch_sends_error (hlimit : 0 < svc.config.search.lookupLimit)
    (h : s.lookupsFail = true) (hne : ids ≠ []) :
    ∃ first rest, batches svc.config.search.lookupLimit (distinct ids) = first :: rest ∧
      (svc.fetch ids).Sends s [.lookup first]
        (.error (.unsupportedQuery .search (.engine Session.lookupReason))) := by
  have hbatches : batches svc.config.search.lookupLimit (distinct ids) ≠ [] := fun hnil =>
    hne (distinct_eq_nil_iff.mp ((areBatches_batches hlimit _).eq_nil_iff.mp hnil))
  obtain ⟨first, rest, hcut⟩ := List.exists_cons_of_ne_nil hbatches
  refine ⟨first, rest, hcut, (batched_sends hlimit _ s).bind_silent ?_⟩
  rw [hcut]
  exact (mapM_lookup_sends_error h first rest).bind_error _

/-- The batches show in the calls only. -/
theorem fetch_outcome (hlimit : 0 < svc.config.search.lookupLimit) :
    ((svc.fetch ids).run s).1 = fetched svc.schema ids s := by
  unfold fetched
  by_cases h : s.lookupsFail = true ∧ ids ≠ []
  · obtain ⟨first, rest, -, hsends⟩ := fetch_sends_error hlimit h.1 h.2
    rw [if_pos h]
    exact congrArg Prod.fst hsends
  · have hfound : s.lookupsFail = false ∨ ids = [] := by
      rcases Bool.eq_false_or_eq_true s.lookupsFail with htrue | hfalse
      · exact .inr (Decidable.not_not.mp fun hne => h ⟨htrue, hne⟩)
      · exact .inl hfalse
    rw [if_neg h]
    exact congrArg Prod.fst (fetch_sends hlimit hfound)

end Fetch

/-- How identifiers are fetched. -/
structure Fetching (svc : Service) (ids : List String) (s : Session) : Prop where
  /-- Each identifier is looked up once, in the order of the first places. -/
  once : IsDistinct ids (distinct ids)
  /-- The batches are as long as they may be, but for the last. -/
  cut : AreBatches svc.config.search.lookupLimit (distinct ids)
    (batches svc.config.search.lookupLimit (distinct ids))
  /-- Each batch is looked up, and the documents found become the records, or the first one that
  is no record fails the fetch. -/
  found : s.lookupsFail = false ∨ ids = [] →
    (svc.fetch ids).Sends s
      ((batches svc.config.search.lookupLimit (distinct ids)).map Call.lookup)
      ((svc.schema.metacards ((distinct ids).filterMap s.documents.get?)).mapError
        .metacardCreation)
  /-- A lookup that fails is the only one. -/
  failed : s.lookupsFail = true → ids ≠ [] →
    ∃ first rest, batches svc.config.search.lookupLimit (distinct ids) = first :: rest ∧
      (svc.fetch ids).Sends s [.lookup first]
        (.error (.unsupportedQuery .search (.engine Session.lookupReason)))
  /-- Batches of another length come to the same, with or without the repeated identifiers. -/
  batchless : ∀ other : Service, other.schema = svc.schema →
    0 < other.config.search.lookupLimit →
      ((other.fetch ids).run s).1 = ((svc.fetch ids).run s).1 ∧
        ((other.fetch (distinct ids)).run s).1 = ((svc.fetch ids).run s).1

/-- **Batches do not matter.** With room in the batches, the distinct identifiers are looked up
batch by batch, and what comes of it is told by their documents alone. -/
theorem fetch_batchless (svc : Service) (ids : List String) (s : Session)
    (hlimit : 0 < svc.config.search.lookupLimit) : Fetching svc ids s where
  once := isDistinct_distinct ids
  cut := areBatches_batches hlimit _
  found := fetch_sends hlimit
  failed := fetch_sends_error hlimit
  batchless other hschema hother := by
    rw [fetch_outcome hother, fetch_outcome hother, fetch_outcome hlimit, hschema,
      fetched_distinct]
    exact ⟨rfl, rfl⟩

/-- A service that looks two identifiers up at a time. -/
def pairwiseService : Service where
  config := { search := { lookupLimit := 2 } }
  schema := Resource.schema.schema

/-- An engine that knows two of the identifiers. -/
def stockedSession : Session :=
  (Session.stock {} "c" (Resource.document "c" "third")).stock "b" (Resource.document "b" "first")

theorem fetch_batchless_repeated :
    0 < pairwiseService.config.search.lookupLimit ∧
      Fetching pairwiseService ["b", "a", "b", "c", "a"] stockedSession ∧
      ∃ records, (pairwiseService.fetch ["b", "a", "b", "c", "a"]).Sends stockedSession
          [.lookup ["b", "a"], .lookup ["c"]] (.ok records) ∧
        records.map Metacard.id? = [some "b", some "c"] := by
  have hlimit : 0 < pairwiseService.config.search.lookupLimit := by decide
  have hfetching := fetch_batchless pairwiseService ["b", "a", "b", "c", "a"] stockedSession hlimit
  exact ⟨hlimit, hfetching, _, hfetching.found (.inl rfl), by decide⟩

end Service

end CatalogSearch
