import CatalogSearch.Proofs.Filter.Outline
import CatalogSearch.Proofs.Filter.Writing

/-!
# What the engine finds by a query text

The engine takes a minus in front of a clause for a prohibition. By itself, and in a conjunction,
such a clause finds what the rest of it does not match. In a disjunction it shuts records out that
other members find, and behind another minus it has no meaning. An empty disjunction is written
with a minus in front, so it means what it says in some places only.

- `Clause.Demand`: what a clause asks of a record.
- `Clause.Tree.demand?`, `Clause.Answers`: what the engine makes of a clause and of a text.
- `Clause.Tree.isPlaced`: no clause with a minus in front stands where it means something else.
- `ClauseWriter.write_answers`: a filter finds the records for which it holds if the clauses of
  its text are well placed.
- `ClauseWriter.write_answers_masked`: otherwise it may miss some.
-/

namespace CatalogSearch

namespace Clause

/-! ## Demands -/

/-- What a clause asks of a record. -/
inductive Demand where
  /-- The record is to match the clause; `found` says whether it does. -/
  | wanted (found : Bool)
  /-- The record is not to match what comes after the minus; `found` says whether it does. -/
  | prohibited (found : Bool)
  deriving DecidableEq

namespace Demand

/-- The record is as the clause asks: it matches a clause that stands alone. -/
def met : Demand → Bool
  | wanted found => found
  | prohibited found => !found

/-- The record matches a clause without a minus. -/
def isMatch : Demand → Bool
  | wanted found => found
  | prohibited _ => false

/-- The record is not shut out by a clause with a minus. -/
def isAllowed : Demand → Bool
  | wanted _ => true
  | prohibited found => !found

/-- The records that a clause does not match, if it is without a minus. -/
def negated? : Demand → Option Demand
  | wanted found => some (wanted !found)
  | prohibited _ => none

end Demand

/-- Whether a record matches a group. A conjunction asks for all that its members ask for; in a
disjunction some member without a minus matches, and no member with a minus shuts the record
out. -/
def Junction.finds : Junction → List Demand → Bool
  | conjunction, ds => ds.all Demand.met
  | disjunction, ds => ds.any Demand.isMatch && ds.all Demand.isAllowed

/-- What a leaf asks of a record that matches the leaves without a minus as `truth` says. -/
def leafDemand (truth : String → Bool) (text : String) : Demand :=
  match text.toList with
  | '-' :: rest => .prohibited (truth (String.ofList rest))
  | _ => .wanted (truth text)

namespace Tree

mutual

/-- What a clause asks of a record, if it has a meaning. -/
def demand? (truth : String → Bool) : Tree → Option Demand
  | everything => some (.wanted true)
  | nothing => some (.prohibited true)
  | negation t => (demand? truth t).bind Demand.negated?
  | group j members => (demands? truth members).map fun ds => .wanted (j.finds ds)
  | leaf text => some (leafDemand truth text)

/-- What several clauses ask of a record, if all have a meaning. -/
def demands? (truth : String → Bool) : List Tree → Option (List Demand)
  | [] => some []
  | t :: ts => (demand? truth t).bind fun d => (demands? truth ts).map (d :: ·)

end

/-- A minus stands in front of the clause. -/
def isPrefixed : Tree → Bool
  | nothing => true
  | leaf text => text.toList.head? = some '-'
  | everything | negation _ | group _ _ => false

/-- No clause with a minus in front is negated or stands in a disjunction. -/
def isPlaced : Tree → Bool
  | negation t => !t.isPrefixed && isPlaced t
  | group .conjunction members => arePlaced members
  | group .disjunction members => members.all (!isPrefixed ·) && arePlaced members
  | everything | nothing | leaf _ => true
where
  /-- The same of several clauses. -/
  arePlaced : List Tree → Bool
    | [] => true
    | t :: ts => isPlaced t && arePlaced ts

end Tree

/-- The engine answers a query text for a record: the text is read as a clause, and the record is
found or not. -/
def Answers (truth : String → Bool) (text : List Char) (found : Bool) : Prop :=
  ∃ t, Reads text t ∧ (t.demand? truth).map Demand.met = some found

/-! ## Clauses in their places -/

variable {truth : String → Bool}

theorem Tree.arePlaced_iff {ts : List Tree} :
    isPlaced.arePlaced ts = true ↔ ∀ t ∈ ts, t.isPlaced = true := by
  induction ts with
  | nil => exact iff_of_true rfl (List.forall_mem_nil _)
  | cons t ts ih => rw [isPlaced.arePlaced, Bool.and_eq_true, List.forall_mem_cons, ih]

/-- A leaf without a minus is wanted. -/
theorem leafDemand_of_head {text : String} (h : text.toList.head? ≠ some '-') :
    leafDemand truth text = .wanted (truth text) := by
  unfold leafDemand
  split
  · next rest heq =>
    rw [heq] at h
    exact absurd rfl h
  · rfl

/-- A clause without a minus is wanted. -/
theorem Tree.wanted_of_demand? {t : Tree} {d : Demand} (hprefixed : t.isPrefixed = false)
    (h : t.demand? truth = some d) : ∃ found, d = .wanted found := by
  cases t with
  | everything => exact ⟨true, (Option.some.inj h).symm⟩
  | nothing => cases hprefixed
  | negation t =>
    obtain ⟨d', -, hnegated⟩ := Option.bind_eq_some_iff.mp h
    cases d' with
    | wanted found => exact ⟨!found, (Option.some.inj hnegated).symm⟩
    | prohibited found => cases hnegated
  | group j members =>
    obtain ⟨ds, -, rfl⟩ := Option.map_eq_some_iff.mp h
    exact ⟨_, rfl⟩
  | leaf text =>
    have hhead : text.toList.head? ≠ some '-' := of_decide_eq_false hprefixed
    have hleaf : leafDemand truth text = d := Option.some.inj h
    rw [leafDemand_of_head hhead] at hleaf
    exact ⟨_, hleaf.symm⟩

theorem Tree.demands?_cons {t : Tree} {ts : List Tree} {ds : List Demand}
    (h : demands? truth (t :: ts) = some ds) :
    ∃ d rest, t.demand? truth = some d ∧ demands? truth ts = some rest ∧ ds = d :: rest := by
  rw [demands?, Option.bind_eq_some_iff] at h
  obtain ⟨d, hd, h⟩ := h
  obtain ⟨rest, hrest, rfl⟩ := Option.map_eq_some_iff.mp h
  exact ⟨d, rest, hd, hrest, rfl⟩

/-- Clauses without a minus are all wanted. -/
theorem Tree.wanted_of_demands? {ts : List Tree} {ds : List Demand}
    (hprefixed : ∀ t ∈ ts, t.isPrefixed = false) (h : demands? truth ts = some ds) :
    ∀ d ∈ ds, ∃ found, d = .wanted found := by
  induction ts generalizing ds with
  | nil =>
    obtain rfl : [] = ds := Option.some.inj h
    exact List.forall_mem_nil _
  | cons t ts ih =>
    obtain ⟨d, rest, hd, hrest, rfl⟩ := demands?_cons h
    obtain ⟨hfirst, hothers⟩ := List.forall_mem_cons.mp hprefixed
    exact List.forall_mem_cons.mpr ⟨wanted_of_demand? hfirst hd, ih hothers hrest⟩

/-- Without a minus in any member a disjunction finds what some member finds. -/
theorem Junction.finds_disjunction {ds : List Demand} (h : ∀ d ∈ ds, ∃ found, d = .wanted found) :
    disjunction.finds ds = ds.any Demand.met := by
  have hallowed : ds.all Demand.isAllowed = true := by
    refine List.all_eq_true.mpr fun d hd => ?_
    obtain ⟨found, rfl⟩ := h d hd
    rfl
  have hmatch : ds.any Demand.isMatch = ds.any Demand.met := by
    rw [Bool.eq_iff_iff, List.any_eq_true, List.any_eq_true]
    refine exists_congr fun d => and_congr_right fun hd => ?_
    obtain ⟨found, rfl⟩ := h d hd
    exact Iff.rfl
  show (ds.any Demand.isMatch && ds.all Demand.isAllowed) = _
  rw [hallowed, hmatch, Bool.and_true]

/-- The members of a well placed group are well placed. -/
theorem Tree.isPlaced_members {j : Junction} {empty : Tree} {ts : List Tree}
    (h : (joined j empty ts).isPlaced = true) : ∀ t ∈ ts, t.isPlaced = true := by
  match ts, j with
  | [], _ => exact List.forall_mem_nil _
  | [t], _ => exact List.forall_mem_singleton.mpr h
  | _ :: _ :: _, .conjunction => exact arePlaced_iff.mp h
  | _ :: _ :: _, .disjunction => exact arePlaced_iff.mp (Bool.and_eq_true_iff.mp h).2

/-- Members side by side find what all of them find. -/
theorem Tree.demand?_conjunction {ts : List Tree} {ds : List Demand}
    (h : demands? truth ts = some ds) :
    ∃ d, (joined .conjunction .everything ts).demand? truth = some d ∧
      d.met = ds.all Demand.met := by
  -- only two members or more make a group; one stands for itself, with its minus if it has one
  match ts with
  | [] =>
    obtain rfl : [] = ds := Option.some.inj h
    exact ⟨.wanted true, rfl, rfl⟩
  | [t] =>
    obtain ⟨d, rest, hd, hrest, rfl⟩ := demands?_cons h
    obtain rfl : [] = rest := Option.some.inj hrest
    exact ⟨d, hd, (Bool.and_true _).symm⟩
  | t :: second :: rest =>
    refine ⟨.wanted (Junction.conjunction.finds ds), ?_, rfl⟩
    show (demands? truth (t :: second :: rest)).map _ = _
    rw [h]
    rfl

/-- Well placed alternatives side by side find what some of them finds. -/
theorem Tree.demand?_disjunction {ts : List Tree} {ds : List Demand}
    (hplaced : (joined .disjunction .nothing ts).isPlaced = true)
    (h : demands? truth ts = some ds) :
    ∃ d, (joined .disjunction .nothing ts).demand? truth = some d ∧
      d.met = ds.any Demand.met := by
  match ts with
  | [] =>
    -- what prohibits every record finds none
    obtain rfl : [] = ds := Option.some.inj h
    exact ⟨.prohibited true, rfl, rfl⟩
  | [t] =>
    obtain ⟨d, rest, hd, hrest, rfl⟩ := demands?_cons h
    obtain rfl : [] = rest := Option.some.inj hrest
    exact ⟨d, hd, (Bool.or_false _).symm⟩
  | t :: second :: rest =>
    have hprefixed : ∀ u ∈ t :: second :: rest, u.isPrefixed = false := by
      intro u hu
      have hu' := List.all_eq_true.mp (Bool.and_eq_true_iff.mp hplaced).1 u hu
      simpa using hu'
    refine ⟨.wanted (Junction.disjunction.finds ds), ?_, ?_⟩
    · show (demands? truth (t :: second :: rest)).map _ = _
      rw [h]
      rfl
    · exact Junction.finds_disjunction (wanted_of_demands? hprefixed h)

/-- A negation finds what a clause without a minus does not find. -/
theorem Tree.demand?_negation {t : Tree} {d : Demand} (hprefixed : t.isPrefixed = false)
    (h : t.demand? truth = some d) :
    ∃ d', (negation t).demand? truth = some d' ∧ d'.met = !d.met := by
  -- a second minus behind the one of the negation would leave it without a meaning
  obtain ⟨found, rfl⟩ := wanted_of_demand? hprefixed h
  refine ⟨.wanted !found, ?_, rfl⟩
  rw [demand?, h]
  rfl

end Clause

/-! ## What filters mean -/

open Clause

/-- Whether a record matches a leaf that stands alone. -/
def Clause.leafFinds (truth : String → Bool) (text : String) : Bool :=
  (leafDemand truth text).met

/-- Whether a record passes a test: it matches the test's leaf, or, if the test is that the
property differs, it does not match the leaf for equality. -/
def Test.passes (schema : Schema) (truth : String → Bool) (property : String) : Test → Bool
  | .comparison .notEqual value =>
    !((Test.comparison .equal value).clause? schema property).any (leafFinds truth)
  | wanted => (wanted.clause? schema property).any (leafFinds truth)

namespace Test

variable {schema : Schema} {truth : String → Bool} {property : String}

theorem passes_eq {wanted : Test} (h : ∀ value, wanted ≠ .comparison .notEqual value) :
    wanted.passes schema truth property =
      (wanted.clause? schema property).any (leafFinds truth) := by
  unfold passes
  split
  · next value => exact absurd rfl (h value)
  · rfl

theorem clause?_eq {wanted : Test} {field : String}
    (h : wanted.field? schema property = some field) :
    wanted.clause? schema property = (wanted.clause field).toOption := by
  unfold clause?
  rw [h]
  rfl

/-- A test is written as a clause that finds the records that pass it. -/
theorem demand?_outline {wanted : Test} {t : Tree} (h : wanted.outline? schema property = some t)
    (hplaced : t.isPlaced = true) :
    ∃ d, t.demand? truth = some d ∧ d.met = wanted.passes schema truth property := by
  unfold outline? at h
  split at h
  · cases h
  · next field value hfield =>
    cases h
    -- the leaf is that of equality, over the same field
    have hequal : (comparison .equal value).clause? schema property =
        some (Comparison.equal.clause field value) := clause?_eq hfield
    have hprefixed : (Tree.leaf (Comparison.equal.clause field value)).isPrefixed = false := by
      simpa using (Bool.and_eq_true_iff.mp hplaced).1
    have hleaf : Tree.demand? truth (.leaf (Comparison.equal.clause field value)) =
        some (leafDemand truth (Comparison.equal.clause field value)) := rfl
    obtain ⟨d, hd, hmet⟩ := Tree.demand?_negation hprefixed hleaf
    refine ⟨d, hd, ?_⟩
    rw [hmet, passes, hequal]
    rfl
  · next field hne hfield =>
    obtain ⟨text, htext, rfl⟩ := Option.map_eq_some_iff.mp h
    refine ⟨leafDemand truth text, rfl, ?_⟩
    rw [passes_eq hne, clause?_eq hfield, htext]
    rfl

end Test

namespace Filter

variable {schema : Schema} {truth : String → Bool}

mutual

/-- A filter is written as a clause that finds the records for which it holds. -/
theorem demand?_outline :
    ∀ (f : Filter) (t : Tree), f.outline? schema = some t → t.isPlaced = true →
      ∃ d, t.demand? truth = some d ∧ d.met = f.holds (Test.passes schema truth)
  | .all children, t, h, hplaced => by
    obtain ⟨ts, hts, rfl⟩ := Option.map_eq_some_iff.mp h
    obtain ⟨ds, hds, hmet⟩ := demands?_outlines children ts hts (Tree.isPlaced_members hplaced)
    obtain ⟨d, hd, hall⟩ := Tree.demand?_conjunction hds
    refine ⟨d, hd, ?_⟩
    show d.met = holds.allHold (Test.passes schema truth) children
    calc d.met = ds.all Demand.met := hall
      _ = (ds.map Demand.met).all id := by rw [List.all_map, Function.id_comp]
      _ = (children.map (holds (Test.passes schema truth))).all id := by rw [hmet]
      _ = children.all (holds (Test.passes schema truth)) := by rw [List.all_map, Function.id_comp]
      _ = holds.allHold (Test.passes schema truth) children := (allHold_eq _ children).symm
  | .any children, t, h, hplaced => by
    obtain ⟨ts, hts, rfl⟩ := Option.map_eq_some_iff.mp h
    obtain ⟨ds, hds, hmet⟩ := demands?_outlines children ts hts (Tree.isPlaced_members hplaced)
    obtain ⟨d, hd, hany⟩ := Tree.demand?_disjunction hplaced hds
    refine ⟨d, hd, ?_⟩
    show d.met = holds.anyHolds (Test.passes schema truth) children
    calc d.met = ds.any Demand.met := hany
      _ = (ds.map Demand.met).any id := by rw [List.any_map, Function.id_comp]
      _ = (children.map (holds (Test.passes schema truth))).any id := by rw [hmet]
      _ = children.any (holds (Test.passes schema truth)) := by rw [List.any_map, Function.id_comp]
      _ = holds.anyHolds (Test.passes schema truth) children := (anyHolds_eq _ children).symm
  | .not child, t, h, hplaced => by
    obtain ⟨u, hu, rfl⟩ := Option.map_eq_some_iff.mp h
    obtain ⟨hprefixed, hplaced⟩ := Bool.and_eq_true_iff.mp hplaced
    obtain ⟨d, hd, hmet⟩ := demand?_outline child u hu hplaced
    obtain ⟨d', hd', hmet'⟩ := Tree.demand?_negation (by simpa using hprefixed) hd
    refine ⟨d', hd', ?_⟩
    rw [hmet', hmet]
    rfl
  | .test property wanted, t, h, hplaced => Test.demand?_outline h hplaced

/-- Several filters are written as clauses that find the records for which they hold. -/
theorem demands?_outlines :
    ∀ (fs : List Filter) (ts : List Tree), outlines? schema fs = some ts →
      (∀ t ∈ ts, t.isPlaced = true) →
      ∃ ds, Tree.demands? truth ts = some ds ∧
        ds.map Demand.met = fs.map (holds (Test.passes schema truth))
  | [], ts, h, hplaced => by
    obtain rfl : [] = ts := Option.some.inj h
    exact ⟨[], rfl, rfl⟩
  | f :: fs, ts, h, hplaced => by
    obtain ⟨t, ht, h⟩ := Option.bind_eq_some_iff.mp h
    obtain ⟨rest, hrest, rfl⟩ := Option.map_eq_some_iff.mp h
    obtain ⟨hfirst, hothers⟩ := List.forall_mem_cons.mp hplaced
    obtain ⟨d, hd, hmet⟩ := demand?_outline f t ht hfirst
    obtain ⟨ds, hds, hmets⟩ := demands?_outlines fs rest hrest hothers
    refine ⟨d :: ds, ?_, ?_⟩
    · rw [Tree.demands?, hd, hds]
      rfl
    · rw [List.map_cons, List.map_cons, hmet, hmets]

end

/-- No clause of the filter's text with a minus in front is negated or stands in a disjunction. -/
def IsPlaced (schema : Schema) (f : Filter) : Prop :=
  ∀ t ∈ f.outline? schema, t.isPlaced = true

end Filter

namespace ClauseWriter

/-- The text of a well placed filter answers as the filter does. -/
theorem answers_iff_holds {w : ClauseWriter} {f : Filter} {text : String} {found : Findings}
    (hnames : w.schema.NamesFields) (hplaced : f.IsPlaced w.schema)
    (hwrite : w.write f = (.ok text, found)) (truth : String → Bool) (answer : Bool) :
    Answers truth text.toList answer ↔ f.holds (Test.passes w.schema truth) = answer := by
  obtain ⟨t, houtline, hreads⟩ := reads_readAt hnames f 1 {} found text hwrite
  obtain ⟨d, hd, hmet⟩ : ∃ d, t.demand? truth = some d ∧
      d.met = f.holds (Test.passes w.schema truth) :=
    f.demand?_outline t houtline (hplaced t houtline)
  constructor
  · rintro ⟨t', hreads', hanswer⟩
    obtain rfl := hreads'.unique hreads
    rw [hd] at hanswer
    exact hmet.symm.trans (Option.some.inj hanswer)
  · rintro rfl
    refine ⟨t, hreads, ?_⟩
    rw [hd, ← hmet]
    rfl

/-- **Meaning kept.** A filter that is not too deep and whose tests have clauses is written, and
if no clause with a minus in front is out of its place, the engine finds a record by the text iff
the filter holds for it. -/
theorem write_answers (w : ClauseWriter) (f : Filter) (hnames : w.schema.NamesFields)
    (hdepth : f.depth ≤ maxFilterDepth) (htests : f.IsExpressible w.schema)
    (hplaced : f.IsPlaced w.schema) :
    ∃ text found, w.write f = (.ok text, found) ∧ ∀ truth answer,
      Answers truth text.toList answer ↔ f.holds (Test.passes w.schema truth) = answer := by
  obtain ⟨text, found, hwrite⟩ := exists_write_eq_ok hdepth htests
  exact ⟨text, found, hwrite, answers_iff_holds hnames hplaced hwrite⟩

/-- A conjunction, a negation and a disjunction around an empty disjunction that is in its place. -/
def degenerateFilter : Filter :=
  .not (.all [
    .test Resource.title (.comparison .notEqual (.text "a")),
    .all [],
    .any [.not (.test Resource.title (.comparison .equal (.text "b"))),
      .any [.test Metacard.locationAttribute (.spatial (.intersects "POINT (1 2)"))]],
    .all [.any []]])

theorem write_answers_degenerate :
    ∃ text found, write ⟨Resource.schema.schema, false⟩ degenerateFilter = (.ok text, found) ∧
      ∀ truth answer, Answers truth text.toList answer ↔
        degenerateFilter.holds (Test.passes Resource.schema.schema truth) = answer := by
  have hdepth : degenerateFilter.depth ≤ maxFilterDepth := by decide
  have htests : degenerateFilter.IsExpressible Resource.schema.schema := by
    unfold Filter.IsExpressible
    decide
  have hplaced : degenerateFilter.IsPlaced Resource.schema.schema := by
    intro t ht
    cases ht
    rfl
  exact write_answers ⟨Resource.schema.schema, false⟩ degenerateFilter Resource.namesFields hdepth
    htests hplaced

/-- An alternative beside an empty disjunction. -/
def maskedFilter : Filter :=
  .any [.test Resource.title (.comparison .equal (.text "a")), .any []]

/-- A record that passes the other alternative is not found, since the empty disjunction shuts
every record out. -/
theorem write_answers_masked :
    ∃ text found, write ⟨Resource.schema.schema, false⟩ maskedFilter = (.ok text, found) ∧
      text = "(title_txt:\"a\" OR -*:*)" ∧
      maskedFilter.holds (Test.passes Resource.schema.schema fun _ => true) = true ∧
      ∀ answer, Answers (fun _ => true) text.toList answer ↔ answer = false := by
  have hwrite : write ⟨Resource.schema.schema, false⟩ maskedFilter =
      (.ok "(title_txt:\"a\" OR -*:*)", {}) := rfl
  obtain ⟨t, houtline, hreads⟩ := reads_readAt Resource.namesFields maskedFilter 1 {} _ _ hwrite
  cases houtline
  refine ⟨_, _, hwrite, rfl, rfl, fun answer => ?_⟩
  constructor
  · rintro ⟨t', hreads', hanswer⟩
    obtain rfl := hreads'.unique hreads
    exact (Option.some.inj hanswer).symm
  · rintro rfl
    exact ⟨_, hreads, rfl⟩

end ClauseWriter

end CatalogSearch
