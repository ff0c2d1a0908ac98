import CatalogSearch.Proofs.Calendar.Moment
import CatalogSearch.Proofs.Calendar.Rfc3339
import CatalogSearch.Proofs.Filter.Leaves
import CatalogSearch.Proofs.Filter.Offences
import CatalogSearch.Proofs.Identifiers
import CatalogSearch.Schema.Resource

/-!
# Temporal clauses depend on moments

An instant is given on a local clock, and written in a clause on the clock of UTC. So it makes no
difference in which offset it was given, and what is written tells the moment.

- `Instant.LiesIn`: the years of UTC that a moment lies in.
- `Instant.WrittenAs`: a text that is read as the moment.
- `Temporal.Renders`: the clauses of temporal tests.
- `Temporal.Concurs`: tests of one kind on the same moments.
- `ClauseWriter.temporal_moments`: which clause a temporal test has, and which tests share it.
-/

namespace CatalogSearch

/-! ## The texts of instants -/

namespace Instant

variable {i j : Instant}

/-- The moment lies in these years of UTC. -/
def LiesIn (first last : Int) (i : Instant) : Prop :=
  ∃ u : Instant, u.IsUtcOf i ∧ first ≤ u.date.year ∧ u.date.year ≤ last

theorem liesIn_iff (h : i.IsValid) {first last : Int} :
    i.LiesIn first last ↔ first ≤ i.utc.date.year ∧ i.utc.date.year ≤ last := by
  constructor
  · rintro ⟨u, hu, hyear⟩
    rwa [hu.eq_utc h] at hyear
  · intro hyear
    exact ⟨i.utc, utc_isUtcOf h, hyear⟩

/-- The text tells the moment in UTC, with a fraction just if the moment has one. -/
structure WrittenAs (i : Instant) (text : String) : Prop where
  form : Rfc3339.IsUtcText text i.nanosecond
  reading : ∃ u, Rfc3339.read? text = some u ∧ u.IsUtcOf i

/-- The moment lies in the years that are written. -/
def IsWritable (i : Instant) : Prop :=
  i.IsValid ∧ i.LiesIn 0 9999

/-- The moment lies in the years of the calendar before these. -/
def IsEarly (i : Instant) : Prop :=
  i.IsValid ∧ i.LiesIn (-9999) (-1)

theorem IsWritable.year (h : i.IsWritable) : 0 ≤ i.utc.date.year ∧ i.utc.date.year ≤ 9999 :=
  (liesIn_iff h.1).mp h.2

theorem IsEarly.year (h : i.IsEarly) : -9999 ≤ i.utc.date.year ∧ i.utc.date.year ≤ -1 :=
  (liesIn_iff h.1).mp h.2

theorem term_of_isWritable (h : i.IsWritable) : i.term = .ok i.utc.text := by
  have hyear := h.year
  have hcalendar : -lastYear ≤ i.utc.date.year ∧ i.utc.date.year ≤ lastYear := by
    unfold lastYear
    omega
  have hfirst : ¬ i.utc.date.year < 0 := by omega
  simp [term, utcText, toUtc?, hcalendar, hfirst]

theorem term_of_isEarly (h : i.IsEarly) : i.term = .error (.invalidRequest .instantYear) := by
  have hyear := h.year
  have hcalendar : -lastYear ≤ i.utc.date.year ∧ i.utc.date.year ≤ lastYear := by
    unfold lastYear
    omega
  have hfirst : i.utc.date.year < 0 := by omega
  simp [term, utcText, toUtc?, hcalendar, hfirst]

theorem IsWritable.read?_text (h : i.IsWritable) : Rfc3339.read? i.utc.text = some i.utc :=
  Instant.read?_text (utc_isValid h.1) rfl h.year.1 h.year.2

theorem IsWritable.writtenAs (h : i.IsWritable) : i.WrittenAs i.utc.text :=
  ⟨text_isUtcText (utc_isValid h.1) h.year.2, i.utc, h.read?_text, utc_isUtcOf h.1⟩

/-- Two moments are the same iff their texts are. -/
theorem IsWritable.text_eq_iff (h : i.IsWritable) (h' : j.IsWritable) :
    i.utc.text = j.utc.text ↔ i.moment = j.moment := by
  rw [← utc_eq_iff h.1 h'.1]
  constructor
  · intro heq
    have hread := h.read?_text
    rw [heq, h'.read?_text] at hread
    exact (Option.some.inj hread).symm
  · exact congrArg text

/-- There is no blank in the text of an instant. -/
theorem blank_notMem_text (i : Instant) : ' ' ∉ i.text.toList :=
  fun hmem => isPlain_text i ' ' hmem (by decide)

/-- Of instants in a row, the first that is too early is what their writing fails with. -/
theorem mapM_term_of_isEarly {before after : List Instant} (hbefore : ∀ j ∈ before, j.IsWritable)
    (h : i.IsEarly) :
    (before ++ i :: after).mapM term = .error (.invalidRequest .instantYear) := by
  induction before with
  | nil => simp [List.mapM_cons, term_of_isEarly h, bind, Except.bind]
  | cons j before ih =>
    obtain ⟨hj, hbefore⟩ := List.forall_mem_cons.mp hbefore
    simp [List.mapM_cons, term_of_isWritable hj, ih hbefore, bind, Except.bind]

end Instant

/-! ## Ranges -/

namespace Clause

/-- A range tells its brackets and its bounds, if there is no blank in the lower one. -/
theorem range_inj {opening low high closing opening' low' high' closing' : String}
    (hopening : opening.toList.length = opening'.toList.length)
    (hclosing : closing.toList.length = closing'.toList.length) (hlow : ' ' ∉ low.toList)
    (hlow' : ' ' ∉ low'.toList)
    (heq : range opening low high closing = range opening' low' high' closing') :
    opening = opening' ∧ low = low' ∧ high = high' ∧ closing = closing' := by
  have htext : ∀ opening low high closing : String, (range opening low high closing).toList =
      opening.toList ++
        (low.toList ++ ' ' :: ("TO ".toList ++ (high.toList ++ closing.toList))) := by
    simp [range]
  have hchars := congrArg String.toList heq
  rw [htext, htext] at hchars
  obtain ⟨hopenings, hbounds⟩ := List.append_inj hchars hopening
  obtain ⟨hlows, hrest⟩ := append_mark_inj hlow hlow' hbounds
  obtain ⟨hhighs, hclosings⟩ := List.append_inj' (List.append_cancel_left hrest) hclosing
  exact ⟨String.toList_inj.mp hopenings, String.toList_inj.mp hlows, String.toList_inj.mp hhighs,
    String.toList_inj.mp hclosings⟩

theorem onField_inj {field operand operand' : String}
    (heq : onField field operand = onField field operand') : operand = operand' := by
  have htext := congrArg String.toList heq
  simp only [onField, String.toList_append, List.append_assoc] at htext
  exact String.toList_inj.mp (List.append_cancel_left (List.append_cancel_left htext))

end Clause

/-! ## Temporal tests -/

namespace Temporal

open Clause

variable {op op' : Temporal}

/-- The clause is that of the test on a field: the named bounds are left out, and each is the text
of its moment. -/
inductive Renders (field : String) : Temporal → String → Prop where
  | before {i : Instant} {text : String} (h : i.WrittenAs text) :
    Renders field (.before i) (field ++ ":[* TO " ++ text ++ "\x7d")
  | after {i : Instant} {text : String} (h : i.WrittenAs text) :
    Renders field (.after i) (field ++ ":\x7b" ++ text ++ " TO *]")
  | during {start finish : Instant} {low high : String} (hstart : start.WrittenAs low)
    (hfinish : finish.WrittenAs high) :
    Renders field (.during start finish) (field ++ ":\x7b" ++ low ++ " TO " ++ high ++ "\x7d")

/-- Tests of one kind on the same moments. -/
inductive Concurs : Temporal → Temporal → Prop where
  | before {i j : Instant} (h : i.moment = j.moment) : Concurs (.before i) (.before j)
  | after {i j : Instant} (h : i.moment = j.moment) : Concurs (.after i) (.after j)
  | during {start finish start' finish' : Instant} (hstart : start.moment = start'.moment)
    (hfinish : finish.moment = finish'.moment) :
    Concurs (.during start finish) (.during start' finish')

/-- The moments of the test are written. -/
def IsWritable (op : Temporal) : Prop :=
  ∀ i ∈ op.instants, i.IsWritable

/-- The bracket before the bounds: only an upper bound by itself leaves the lower one in. -/
def opening : Temporal → String
  | before _ => "["
  | after _ => openAbove
  | during _ _ => openAbove

/-- The lower bound, for a test whose moments are written. -/
def low : Temporal → String
  | before _ => unbounded
  | after i => i.utc.text
  | during start _ => start.utc.text

/-- The upper bound, for a test whose moments are written. -/
def high : Temporal → String
  | before i => i.utc.text
  | after _ => unbounded
  | during _ finish => finish.utc.text

/-- The bracket after the bounds. -/
def closing : Temporal → String
  | before _ => openBelow
  | after _ => "]"
  | during _ _ => openBelow

/-- The operand of a test whose moments are written. -/
def operand (op : Temporal) : String :=
  range op.opening op.low op.high op.closing

theorem clause_of_isWritable (h : op.IsWritable) (field : String) :
    op.clause field = .ok (onField field op.operand) := by
  cases op with
  | before i =>
    have hterm := Instant.term_of_isWritable (h i (by simp [instants]))
    simp [clause, hterm, operand, opening, low, high, closing, bind, Except.bind, pure, Except.pure]
  | after i =>
    have hterm := Instant.term_of_isWritable (h i (by simp [instants]))
    simp [clause, hterm, operand, opening, low, high, closing, bind, Except.bind, pure, Except.pure]
  | during start finish =>
    have hlow := Instant.term_of_isWritable (h start (by simp [instants]))
    have hhigh := Instant.term_of_isWritable (h finish (by simp [instants]))
    simp [clause, hlow, hhigh, operand, opening, low, high, closing, bind, Except.bind, pure,
      Except.pure]

theorem length_opening (op : Temporal) : op.opening.toList.length = 1 := by
  cases op <;> simp [opening, openAbove]

theorem length_closing (op : Temporal) : op.closing.toList.length = 1 := by
  cases op <;> simp [closing, openBelow]

theorem blank_notMem_low (op : Temporal) : ' ' ∉ op.low.toList := by
  cases op with
  | before i =>
    show ' ' ∉ unbounded.toList
    decide
  | after i => exact i.utc.blank_notMem_text
  | during start finish => exact start.utc.blank_notMem_text

/-- The operands tell the kinds and the moments. -/
theorem operand_eq_iff (h : op.IsWritable) (h' : op'.IsWritable) :
    op.operand = op'.operand ↔ op.Concurs op' := by
  constructor
  · intro heq
    obtain ⟨hopening, hlow, hhigh, hclosing⟩ :=
      range_inj (op.length_opening.trans op'.length_opening.symm)
        (op.length_closing.trans op'.length_closing.symm) op.blank_notMem_low op'.blank_notMem_low
        heq
    -- two kinds differ in a bracket, so only the cases of one kind remain
    have hbefore : "[" ≠ openAbove := by decide
    have hafter : "]" ≠ openBelow := by decide
    cases op with
    | before i =>
      cases op' with
      | before j => exact .before (((h i (.head _)).text_eq_iff (h' j (.head _))).mp hhigh)
      | after j => exact absurd hopening hbefore
      | during start' finish' => exact absurd hopening hbefore
    | after i =>
      cases op' with
      | before j => exact absurd hopening hbefore.symm
      | after j => exact .after (((h i (.head _)).text_eq_iff (h' j (.head _))).mp hlow)
      | during start' finish' => exact absurd hclosing hafter
    | during start finish =>
      cases op' with
      | before j => exact absurd hopening hbefore.symm
      | after j => exact absurd hclosing hafter.symm
      | during start' finish' =>
        exact .during (((h start (.head _)).text_eq_iff (h' start' (.head _))).mp hlow)
          (((h finish (.tail _ (.head _))).text_eq_iff (h' finish' (.tail _ (.head _)))).mp hhigh)
  · intro hconcurs
    cases hconcurs with
    | before hij =>
      have hi := h _ (.head _)
      simp only [operand, low, high, opening, closing, (hi.text_eq_iff (h' _ (.head _))).mpr hij]
    | after hij =>
      have hi := h _ (.head _)
      simp only [operand, low, high, opening, closing, (hi.text_eq_iff (h' _ (.head _))).mpr hij]
    | during hstarts hfinishes =>
      have hstart := h _ (.head _)
      have hfinish := h _ (.tail _ (.head _))
      simp only [operand, low, high, opening, closing,
        (hstart.text_eq_iff (h' _ (.head _))).mpr hstarts,
        (hfinish.text_eq_iff (h' _ (.tail _ (.head _)))).mpr hfinishes]

theorem renders_operand (h : op.IsWritable) (field : String) :
    op.Renders field (onField field op.operand) := by
  cases op with
  | before i =>
    have htext : onField field (before i).operand = field ++ ":[* TO " ++ i.utc.text ++ "\x7d" := by
      apply String.toList_inj.mp
      simp [onField, operand, opening, low, high, closing, range, unbounded, openBelow]
    rw [htext]
    exact .before (h i (.head _)).writtenAs
  | after i =>
    have htext : onField field (after i).operand = field ++ ":\x7b" ++ i.utc.text ++ " TO *]" := by
      apply String.toList_inj.mp
      simp [onField, operand, opening, low, high, closing, range, unbounded, openAbove]
    rw [htext]
    exact .after (h i (.head _)).writtenAs
  | during start finish =>
    have htext : onField field (during start finish).operand =
        field ++ ":\x7b" ++ start.utc.text ++ " TO " ++ finish.utc.text ++ "\x7d" := by
      apply String.toList_inj.mp
      simp [onField, operand, opening, low, high, closing, range, openAbove, openBelow]
    rw [htext]
    exact .during (h start (.head _)).writtenAs (h finish (.tail _ (.head _))).writtenAs

end Temporal

namespace ClauseWriter

variable {w : ClauseWriter} {property field : String}

/-- The clause of a temporal test on a property with a field; nothing is noted. -/
theorem temporalClause_run
    (hfield : w.schema.field? property .date false .empty = some field) (op : Temporal)
    (found : Findings) :
    (w.testClause property (.temporal op)).run found = (op.clause field, found) := by
  have hnote : w.note property (.temporal op) found = found := by
    cases found
    simp [note, Test.id?, Test.origin?]
  have hfield' : (Test.temporal op).field? w.schema property = some field := hfield
  have hclause : (Test.temporal op).clause field = op.clause field := rfl
  unfold testClause
  rw [hfield']
  simp only [hclause]
  cases op.clause field with
  | error failure => rfl
  | ok clause =>
    show (Except.ok clause, w.note property (.temporal op) found) = _
    rw [hnote]

/-- **Temporal clauses depend on moments.** A temporal test has the clause with the texts of its
moments, if these lie in the years from 0 to 9999 in UTC; it is refused if the first that does not
lies before them. Two tests have the same clause just if they are of one kind and on the same
moments, whatever the offsets are. -/
theorem temporal_moments (w : ClauseWriter) (property field : String)
    (hfield : w.schema.field? property .date false .empty = some field) (found : Findings) :
    (∀ op : Temporal, op.IsWritable → ∃ clause, op.Renders field clause ∧
      (w.testClause property (.temporal op)).run found = (.ok clause, found)) ∧
    (∀ (op : Temporal) (before after : List Instant) (i : Instant),
      op.instants = before ++ i :: after → (∀ j ∈ before, j.IsWritable) → i.IsEarly →
        (w.testClause property (.temporal op)).run found =
          (.error (.invalidRequest .instantYear), found)) ∧
    ∀ op op' : Temporal, op.IsWritable → op'.IsWritable →
      ((w.testClause property (.temporal op)).run found =
          (w.testClause property (.temporal op')).run found ↔ op.Concurs op') := by
  refine ⟨fun op h => ?_, fun op before after i hsplit hbefore hi => ?_, fun op op' h h' => ?_⟩
  · refine ⟨_, Temporal.renders_operand h field, ?_⟩
    rw [temporalClause_run hfield, Temporal.clause_of_isWritable h]
  · obtain ⟨finish, hclause⟩ := op.clause_eq_map field
    rw [temporalClause_run hfield, hclause, hsplit, Instant.mapM_term_of_isEarly hbefore hi]
    rfl
  · rw [temporalClause_run hfield, temporalClause_run hfield, Temporal.clause_of_isWritable h,
      Temporal.clause_of_isWritable h', ← Temporal.operand_eq_iff h h']
    constructor
    · intro heq
      exact Clause.onField_inj (Except.ok.inj (Prod.mk.inj heq).1)
    · intro heq
      rw [heq]

/-- Half past nine in the evening of a leap day in UTC, given on a clock that is two hours ahead. -/
def leapEvening : Instant := ⟨⟨2024, 2, 29⟩, 23, 30, 0, 500000000, 7200⟩

/-- The same moment on a clock that is five hours ahead and shows the next month. -/
def marchMorning : Instant := ⟨⟨2024, 3, 1⟩, 2, 30, 0, 500000000, 18000⟩

/-- A moment of year zero on its own clock, but not in UTC. -/
def beforeZero : Instant := ⟨⟨0, 1, 1⟩, 0, 0, 0, 0, 1⟩

/-- A writer whose schema knows when a resource took effect. -/
def resourceWriter : ClauseWriter where
  schema := Resource.schema.schema
  byDistance := false

theorem temporal_moments_leapDay :
    resourceWriter.schema.field? "effective" .date false .empty = some "effective_tdt" ∧
      (Temporal.before leapEvening).IsWritable ∧ (Temporal.before marchMorning).IsWritable ∧
      beforeZero.IsEarly ∧
      (resourceWriter.testClause "effective" (.temporal (.before marchMorning))).run {} =
        (.ok "effective_tdt:[* TO 2024-02-29T21:30:00.5Z\x7d", {}) ∧
      (resourceWriter.testClause "effective" (.temporal (.during leapEvening beforeZero))).run {} =
        (.error (.invalidRequest .instantYear), {}) := by
  have hfield : resourceWriter.schema.field? "effective" .date false .empty =
      some "effective_tdt" := by decide
  have hleap : leapEvening.IsWritable :=
    ⟨by decide, (Instant.liesIn_iff (by decide)).mpr (by decide)⟩
  have hmarch : marchMorning.IsWritable :=
    ⟨by decide, (Instant.liesIn_iff (by decide)).mpr (by decide)⟩
  have hearly : beforeZero.IsEarly :=
    ⟨by decide, (Instant.liesIn_iff (by decide)).mpr (by decide)⟩
  have hbefore : (Temporal.before leapEvening).IsWritable := List.forall_mem_singleton.mpr hleap
  have hbefore' : (Temporal.before marchMorning).IsWritable := List.forall_mem_singleton.mpr hmarch
  have hmoment : marchMorning.moment = leapEvening.moment := by decide
  obtain ⟨-, hrefused, hsame⟩ := temporal_moments resourceWriter _ _ hfield {}
  refine ⟨hfield, hbefore, hbefore', hearly, ?_, ?_⟩
  · rw [(hsame _ _ hbefore' hbefore).mpr (.before hmoment)]
    rfl
  · exact hrefused (.during leapEvening beforeZero) [leapEvening] [] beforeZero rfl
      (List.forall_mem_singleton.mpr hleap) hearly

end ClauseWriter

end CatalogSearch
