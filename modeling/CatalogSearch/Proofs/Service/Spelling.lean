import CatalogSearch.Proofs.Engine.Dialogue
import CatalogSearch.Proofs.KeyMap
import CatalogSearch.Schema.Resource
import CatalogSearch.Service.Search

/-!
# Searches with corrected spelling

A search with the spelling checked takes one pass or two. The second asks for the
best corrected text that the first answer offers, and counts only if it shows more
documents.

- `Collation.IsMost`: the earliest of several collations with the most hits; the
  fold that picks a collation keeps this as its invariant (`isMost_foldl_better`).
- `EngineResponse.docCount`: how many documents an answer shows.
- `mem_sortedSet`, `sortedSet_ordered`: the corrected words, each once, in order.
- `Service.Passes`: every way the passes can go, with the queries that are asked.
- `Service.searchSpelled_runs`: a search goes one of these ways.
- `Service.searchSpelled_two_passes`: which way it goes, told by the replies.
-/

namespace CatalogSearch

/-! ## The collation that is tried -/

namespace Collation

/-- `best` has the most hits of all collations, and more than any before it. -/
def IsMost (best : Collation) (all : List Collation) : Prop :=
  ∃ before after, all = before ++ best :: after ∧
    (∀ c ∈ before, c.hits < best.hits) ∧ ∀ c ∈ after, c.hits ≤ best.hits

theorem isMost_singleton (c : Collation) : c.IsMost [c] :=
  ⟨[], [], rfl, List.forall_mem_nil _, List.forall_mem_nil _⟩

/-- A collation with at most as many hits does not matter. -/
theorem IsMost.append_of_le {best next : Collation} {all : List Collation}
    (h : best.IsMost all) (hle : next.hits ≤ best.hits) : best.IsMost (all ++ [next]) := by
  obtain ⟨before, after, rfl, hbefore, hafter⟩ := h
  refine ⟨before, after ++ [next], by rw [List.append_assoc]; rfl, hbefore, ?_⟩
  intro c hc
  rcases List.mem_append.mp hc with hc | hc
  · exact hafter c hc
  · rw [List.mem_singleton.mp hc]
    exact hle

/-- A collation with more hits takes over from all before it. -/
theorem IsMost.append_of_lt {best next : Collation} {all : List Collation}
    (h : best.IsMost all) (hlt : best.hits < next.hits) : next.IsMost (all ++ [next]) := by
  obtain ⟨before, after, rfl, hbefore, hafter⟩ := h
  -- those before `best` have fewer hits than `best`, and those after it no more
  refine ⟨before ++ best :: after, [], rfl, ?_, List.forall_mem_nil _⟩
  intro c hc
  rw [Int64.lt_iff_toInt_lt] at hlt ⊢
  rcases List.mem_append.mp hc with hc | hc
  · have hc' := Int64.lt_iff_toInt_lt.mp (hbefore c hc)
    omega
  · rcases List.mem_cons.mp hc with rfl | hc
    · exact hlt
    · have hc' := Int64.le_iff_toInt_le.mp (hafter c hc)
      omega

/-- The fold never loses the best of what it has seen. -/
theorem isMost_foldl_better (rest : List Collation) :
    ∀ {best : Collation} {seen : List Collation}, best.IsMost seen →
      ∃ last, rest.foldl better (some best) = some last ∧ last.IsMost (seen ++ rest) := by
  induction rest with
  | nil =>
    intro best seen h
    exact ⟨best, rfl, by rwa [List.append_nil]⟩
  | cons next rest ih =>
    intro best seen h
    rw [List.foldl_cons, better]
    by_cases hlt : best.hits < next.hits
    · rw [if_pos hlt]
      obtain ⟨last, hlast, hmost⟩ := ih (h.append_of_lt hlt)
      exact ⟨last, hlast, by rwa [List.append_assoc] at hmost⟩
    · rw [if_neg hlt]
      obtain ⟨last, hlast, hmost⟩ := ih (h.append_of_le (Int64.not_lt.mp hlt))
      exact ⟨last, hlast, by rwa [List.append_assoc] at hmost⟩

end Collation

namespace EngineResponse

/-- How many documents an answer shows; without results there are none. -/
def docCount (r : EngineResponse) : Nat :=
  match r.results with
  | none => 0
  | some page => page.docs.length

/-- A page is as long as it has documents to show. -/
theorem pageSize_eq_docCount (r : EngineResponse) : r.pageSize = r.docCount := by
  unfold pageSize docs docCount
  cases r.results <;> rfl

/-- The corrected texts that an answer offers; without a spelling check there are
none. -/
def collations (r : EngineResponse) : List Collation :=
  (r.spelling.map (·.collations)).getD []

theorem mostHits?_eq_foldl (r : EngineResponse) :
    r.mostHits? = r.collations.foldl Collation.better none := by
  unfold mostHits? collations
  cases r.spelling <;> rfl

/-- A collation is tried iff any is offered, and then it is the best one. -/
theorem mostHits?_of_ne_nil {r : EngineResponse} (h : r.collations ≠ []) :
    ∃ best, r.mostHits? = some best ∧ best.IsMost r.collations := by
  rw [mostHits?_eq_foldl]
  obtain ⟨first, rest, hcons⟩ := List.exists_cons_of_ne_nil h
  rw [hcons, List.foldl_cons, Collation.better]
  exact Collation.isMost_foldl_better rest (Collation.isMost_singleton first)

theorem mostHits?_eq_none_iff {r : EngineResponse} :
    r.mostHits? = none ↔ r.collations = [] := by
  by_cases h : r.collations = []
  · rw [mostHits?_eq_foldl, h]
    exact ⟨fun _ => rfl, fun _ => rfl⟩
  · obtain ⟨best, hbest, -⟩ := mostHits?_of_ne_nil h
    rw [hbest]
    constructor
    · intro hnone
      cases hnone
    · intro hnil
      exact absurd hnil h

theorem isMost_of_mostHits? {r : EngineResponse} {best : Collation}
    (h : r.mostHits? = some best) : best.IsMost r.collations := by
  have hne : r.collations ≠ [] := by
    intro hnil
    rw [mostHits?_eq_none_iff.mpr hnil] at h
    cases h
  obtain ⟨best', hbest', hmost⟩ := mostHits?_of_ne_nil hne
  cases h.symm.trans hbest'
  exact hmost

end EngineResponse

/-! ## The words of a correction -/

theorem sortedSet_ordered (texts : List String) : (sortedSet texts).Pairwise (· < ·) :=
  KeyMap.keys_ordered _

theorem mem_sortedSet {texts : List String} {text : String} :
    text ∈ sortedSet texts ↔ text ∈ texts := by
  unfold sortedSet
  rw [KeyMap.mem_keys_ofList, List.map_map]
  simp

/-- `words` are the texts of `source` in increasing order, each once. -/
structure IsSortedSet (words source : List String) : Prop where
  ordered : words.Pairwise (· < ·)
  mem : ∀ w, w ∈ words ↔ w ∈ source

theorem isSortedSet_sortedSet (source : List String) : IsSortedSet (sortedSet source) source :=
  ⟨sortedSet_ordered source, fun _ => mem_sortedSet⟩

/-- The annotations `new` are `old` with the words of an adopted correction: its
misspelled words and its corrections replace what stood under their two names, and
nothing else moved. -/
structure Annotations.Corrects (old : Annotations) (best : Collation) (new : Annotations) :
    Prop where
  misspelled : ∃ words, new.get? didYouMean = some (.terms words) ∧
    IsSortedSet words (best.corrections.map (·.misspelled))
  corrected : ∃ words, new.get? showingResultsFor = some (.terms words) ∧
    IsSortedSet words (best.corrections.map (·.correction))
  others : ∀ name, name ≠ didYouMean → name ≠ showingResultsFor → new.get? name = old.get? name

theorem Annotations.didYouMean_ne_showingResultsFor : didYouMean ≠ showingResultsFor := by
  decide

/-- Adding the words of a correction does just that. -/
theorem Annotations.addCorrections_corrects (old : Annotations) (best : Collation) :
    old.Corrects best (old.addCorrections best) := by
  unfold addCorrections
  refine ⟨⟨_, ?_, isSortedSet_sortedSet _⟩, ⟨_, ?_, isSortedSet_sortedSet _⟩, ?_⟩
  · rw [KeyMap.get?_insert_of_ne _ didYouMean_ne_showingResultsFor, KeyMap.get?_insert_self]
  · rw [KeyMap.get?_insert_self]
  · intro name h₁ h₂
    rw [KeyMap.get?_insert_of_ne _ h₂, KeyMap.get?_insert_of_ne _ h₁]

/-! ## The passes -/

namespace EngineQuery

/-- The query of the first pass: the spelling is checked on request. -/
def checked (q : EngineQuery) (check : Bool) : EngineQuery :=
  if check then q.putParam spellcheckParam "true" else q

/-- The query of the second pass: a corrected text, its spelling not checked. -/
def retried (q : EngineQuery) (best : Collation) : EngineQuery :=
  { q with text := some best.text, params := q.params.insert spellcheckParam ["false"] }

end EngineQuery

namespace Service

open ServiceM

/-- The ways a search with corrected spelling can go: whether the spelling is
checked, the replies to its queries, the queries, and what comes of them. -/
inductive Passes (q : EngineQuery) (notes : Annotations) :
    Bool → Except String EngineResponse → Except String EngineResponse →
      List EngineQuery → Except Failure (EngineResponse × Annotations) → Prop where
  /-- The first pass fails. -/
  | failed {check reason second} :
    Passes q notes check (.error reason) second [q.checked check]
      (.error (.unsupportedQuery .search (.engine reason)))
  /-- There is nothing to try. -/
  | once {check answer second} (hno : check = false ∨ answer.collations = []) :
    Passes q notes check (.ok answer) second [q.checked check] (.ok (answer, notes))
  /-- The second pass fails. -/
  | lost {answer best reason} (hbest : answer.mostHits? = some best) :
    Passes q notes true (.ok answer) (.error reason)
      [q.checked true, (q.checked true).retried best]
      (.error (.unsupportedQuery .search (.engine reason)))
  /-- The second answer shows no more documents than the first. -/
  | kept {answer best other} (hbest : answer.mostHits? = some best)
    (hle : other.docCount ≤ answer.docCount) :
    Passes q notes true (.ok answer) (.ok other)
      [q.checked true, (q.checked true).retried best] (.ok (answer, notes))
  /-- The second answer shows more. -/
  | adopted {answer best other} (hbest : answer.mostHits? = some best)
    (hlt : answer.docCount < other.docCount) :
    Passes q notes true (.ok answer) (.ok other)
      [q.checked true, (q.checked true).retried best]
      (.ok (other, notes.addCorrections best))

/-- What counts of two passes: the answer with more documents, and the first one if they have as
many. -/
def longer (notes : Annotations) (answer : EngineResponse) (best : Collation)
    (other : EngineResponse) : EngineResponse × Annotations :=
  if answer.docCount < other.docCount then (other, notes.addCorrections best)
  else (answer, notes)

/-- A search with corrected spelling goes one of these ways. -/
theorem searchSpelled_runs (q : EngineQuery) (check : Bool) (notes : Annotations)
    (s : Session) :
    ∃ asked out, Passes q notes check (s.reply 0) (s.reply 1) asked out ∧
      (searchSpelled q check notes).Runs s asked out := by
  have hfirst := search_runs (q.checked check) s
  unfold searchSpelled
  cases h : s.reply 0 with
  | error reason =>
    rw [h] at hfirst
    refine ⟨_, _, .failed, ?_⟩
    cases check with
    | false => exact hfirst.bind_error _
    | true => exact hfirst.bind_error _
  | ok answer =>
    rw [h] at hfirst
    cases check with
    | false =>
      exact ⟨_, _, .once (.inl rfl), hfirst.bind_last fun answer s' => runs_pure (answer, notes) s'⟩
    | true =>
      rw [if_pos rfl]
      cases hbest : answer.mostHits? with
      | none =>
        have hno := EngineResponse.mostHits?_eq_none_iff.mp hbest
        refine ⟨_, _, .once (.inr hno), hfirst.bind fun s' _ => ?_⟩
        simp only [hbest]
        exact runs_pure _ s'
      | some best =>
        have hrun : (searchSpelled q true notes).Runs s
            [q.checked true, (q.checked true).retried best]
            ((searched (s.reply 1)).bind fun other => .ok (longer notes answer best other)) := by
          refine hfirst.bind fun s' hs' => ?_
          -- the second pass starts where the script has lost its first answer
          rw [← show s'.reply 0 = s.reply 1 from hs'.reply 0]
          simp only [hbest]
          refine (search_runs _ s').bind_last fun other s'' => ?_
          unfold longer
          rw [EngineResponse.pageSize_eq_docCount, EngineResponse.pageSize_eq_docCount]
          by_cases hlt : answer.docCount < other.docCount
          · rw [if_pos hlt, if_pos hlt]
            exact runs_pure _ s''
          · rw [if_neg hlt, if_neg hlt]
            exact runs_pure _ s''
        cases h' : s.reply 1 with
        | error reason =>
          rw [h'] at hrun
          exact ⟨_, _, .lost hbest, hrun⟩
        | ok other =>
          rw [h'] at hrun
          by_cases hlt : answer.docCount < other.docCount
          · refine ⟨_, _, .adopted hbest hlt, ?_⟩
            rwa [← show longer notes answer best other = _ from if_pos hlt]
          · refine ⟨_, _, .kept hbest (Nat.le_of_not_lt hlt), ?_⟩
            rwa [← show longer notes answer best other = _ from if_neg hlt]

namespace Passes

variable {q : EngineQuery} {notes : Annotations} {check : Bool}
  {first second : Except String EngineResponse} {answer : EngineResponse}
  {asked : List EngineQuery} {out : Except Failure (EngineResponse × Annotations)}

/-- There is a first pass, and there is no third. -/
theorem length_asked (h : Passes q notes check first second asked out) :
    1 ≤ asked.length ∧ asked.length ≤ 2 := by
  cases h with
  | failed => exact ⟨Nat.le_refl 1, Nat.le_succ 1⟩
  | once _ => exact ⟨Nat.le_refl 1, Nat.le_succ 1⟩
  | lost _ => exact ⟨Nat.le_succ 1, Nat.le_refl 2⟩
  | kept _ _ => exact ⟨Nat.le_succ 1, Nat.le_refl 2⟩
  | adopted _ _ => exact ⟨Nat.le_succ 1, Nat.le_refl 2⟩

theorem of_error {reason : String}
    (h : Passes q notes check (.error reason) second asked out) :
    asked = [q.checked check] ∧ out = .error (.unsupportedQuery .search (.engine reason)) := by
  cases h with
  | failed => exact ⟨rfl, rfl⟩

theorem of_no_offer (h : Passes q notes check (.ok answer) second asked out)
    (hno : check = false ∨ answer.collations = []) :
    asked = [q.checked check] ∧ out = .ok (answer, notes) := by
  -- an offer that was tried contradicts that nothing is offered
  have hoffer : ∀ best, answer.mostHits? = some best → check ≠ true := by
    rintro best hbest rfl
    rcases hno with hno | hno
    · cases hno
    · rw [EngineResponse.mostHits?_eq_none_iff.mpr hno] at hbest
      cases hbest
  cases h with
  | once _ => exact ⟨rfl, rfl⟩
  | lost hbest => exact absurd rfl (hoffer _ hbest)
  | kept hbest _ => exact absurd rfl (hoffer _ hbest)
  | adopted hbest _ => exact absurd rfl (hoffer _ hbest)

/-- Without an offer there is one pass, whether it fails or not. -/
theorem asked_of_no_offer (h : Passes q notes check first second asked out)
    (hno : ∀ answer, first = .ok answer → answer.collations = []) :
    asked = [q.checked check] := by
  cases first with
  | error reason => exact h.of_error.1
  | ok answer => exact (h.of_no_offer (.inr (hno answer rfl))).1

/-- With the spelling unchecked there is one pass, whether it fails or not. -/
theorem asked_of_unchecked (h : Passes q notes check first second asked out)
    (hcheck : check = false) : asked = [q] := by
  subst hcheck
  cases first with
  | error reason => exact h.of_error.1
  | ok answer => exact (h.of_no_offer (.inl rfl)).1

theorem of_offer (h : Passes q notes true (.ok answer) second asked out)
    (hne : answer.collations ≠ []) :
    ∃ best : Collation, best.IsMost answer.collations ∧
      asked = [q.checked true, (q.checked true).retried best] ∧
      (∀ reason, second = .error reason →
        out = .error (.unsupportedQuery .search (.engine reason))) ∧
      (∀ other, second = .ok other → answer.docCount < other.docCount →
        ∃ new, out = .ok (other, new) ∧ notes.Corrects best new) ∧
      (∀ other, second = .ok other → other.docCount ≤ answer.docCount →
        out = .ok (answer, notes)) := by
  obtain ⟨best, hbest, hmost⟩ := EngineResponse.mostHits?_of_ne_nil hne
  refine ⟨best, hmost, ?_⟩
  cases h with
  | once hno =>
    rcases hno with hno | hno
    · cases hno
    · exact absurd hno hne
  | lost hbest' =>
    cases hbest.symm.trans hbest'
    refine ⟨rfl, ?_, ?_, ?_⟩
    · rintro reason ⟨⟩
      rfl
    · rintro other ⟨⟩
    · rintro other ⟨⟩
  | kept hbest' hle =>
    cases hbest.symm.trans hbest'
    refine ⟨rfl, ?_, ?_, ?_⟩
    · rintro reason ⟨⟩
    · rintro other ⟨⟩ hlt
      exact absurd hlt (Nat.not_lt_of_le hle)
    · intro other _ _
      rfl
  | adopted hbest' hlt =>
    cases hbest.symm.trans hbest'
    refine ⟨rfl, ?_, ?_, ?_⟩
    · rintro reason ⟨⟩
    · rintro other ⟨⟩ _
      exact ⟨_, rfl, Annotations.addCorrections_corrects notes best⟩
    · rintro other ⟨⟩ hle
      exact absurd hlt (Nat.not_lt_of_le hle)

end Passes

/-- **Two passes.** A search with corrected spelling asks one query or two, and the
replies tell which and what is returned:
- if the first pass fails, so does the search;
- if the spelling is not checked, or nothing is offered, the first answer is
  returned and the annotations stay;
- otherwise the best offer is asked for, with the spelling check turned off. If that
  fails, so does the search. An answer with more documents is returned, with the words
  of its correction; else the first answer is, and the annotations stay. -/
theorem searchSpelled_two_passes (q : EngineQuery) (check : Bool) (notes : Annotations)
    (s : Session) :
    ∃ asked out after, (searchSpelled q check notes).run s = (out, after) ∧
      after.calls = s.calls ++ asked.map Call.query ∧
      1 ≤ asked.length ∧ asked.length ≤ 2 ∧
      (∀ reason, s.reply 0 = .error reason →
        asked = [q.checked check] ∧
        out = .error (.unsupportedQuery .search (.engine reason))) ∧
      (∀ answer, s.reply 0 = .ok answer → check = false ∨ answer.collations = [] →
        asked = [q.checked check] ∧ out = .ok (answer, notes)) ∧
      (∀ answer, s.reply 0 = .ok answer → check = true → answer.collations ≠ [] →
        ∃ best : Collation, best.IsMost answer.collations ∧
          asked = [q.checked check, (q.checked check).retried best] ∧
          (∀ reason, s.reply 1 = .error reason →
            out = .error (.unsupportedQuery .search (.engine reason))) ∧
          (∀ other, s.reply 1 = .ok other → answer.docCount < other.docCount →
            ∃ new, out = .ok (other, new) ∧ notes.Corrects best new) ∧
          (∀ other, s.reply 1 = .ok other → other.docCount ≤ answer.docCount →
            out = .ok (answer, notes))) := by
  obtain ⟨asked, out, hpasses, hrun⟩ := searchSpelled_runs q check notes s
  have hlength := hpasses.length_asked
  refine ⟨asked, out, _, Prod.ext hrun.outcome rfl, hrun.asks.calls, hlength.1, hlength.2,
    ?_, ?_, ?_⟩
  · intro reason h
    rw [h] at hpasses
    exact hpasses.of_error
  · intro answer h hno
    rw [h] at hpasses
    exact hpasses.of_no_offer hno
  · rintro answer h rfl hne
    rw [h] at hpasses
    exact hpasses.of_offer hne

/-- An answer with one document that offers two corrected texts. -/
def offeringAnswer : EngineResponse where
  results := some ⟨[Resource.document "id-0" "helo"], 12⟩
  spelling := some ⟨[⟨"title_txt:\"help\"", 1, [⟨"helo", "help"⟩]⟩,
    ⟨"title_txt:\"hello\"", 4, [⟨"helo", "hello"⟩]⟩]⟩

/-- The answers to a misspelled text, and to a corrected one. -/
def misspelledSession (second : EngineResponse) : Session where
  script := [.respond offeringAnswer, .respond second]

/-- An answer that shows two documents, and one that shows one of many. -/
def longerAnswer : EngineResponse := .ofDocuments (Resource.documents 2) 2
def wideAnswer : EngineResponse := .ofDocuments (Resource.documents 1) 500

/-- Two documents replace the one, but one of however many does not. -/
theorem searchSpelled_two_passes_by_length :
    let q : EngineQuery := .ofText "title_txt:\"helo\""
    (∃ best new after, best.IsMost offeringAnswer.collations ∧
      (searchSpelled q true .empty).run (misspelledSession longerAnswer) =
        (.ok (longerAnswer, new), after) ∧ Annotations.Corrects .empty best new) ∧
    ∃ after, (searchSpelled q true .empty).run (misspelledSession wideAnswer) =
      (.ok (offeringAnswer, .empty), after) := by
  intro q
  constructor
  · obtain ⟨asked, out, after, hrun, -, -, -, -, -, hoffered⟩ :=
      searchSpelled_two_passes q true .empty (misspelledSession longerAnswer)
    obtain ⟨best, hmost, -, -, hlonger, -⟩ := hoffered offeringAnswer rfl rfl (by decide)
    obtain ⟨new, rfl, hcorrects⟩ := hlonger longerAnswer rfl (by decide)
    exact ⟨best, new, after, hmost, hrun, hcorrects⟩
  · obtain ⟨asked, out, after, hrun, -, -, -, -, -, hoffered⟩ :=
      searchSpelled_two_passes q true .empty (misspelledSession wideAnswer)
    obtain ⟨best, -, -, -, -, hkept⟩ := hoffered offeringAnswer rfl rfl (by decide)
    obtain rfl := hkept wideAnswer rfl (by decide)
    exact ⟨after, hrun⟩

end Service

end CatalogSearch
