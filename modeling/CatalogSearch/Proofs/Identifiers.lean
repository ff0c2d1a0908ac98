import CatalogSearch.Filter.Clause
import CatalogSearch.Identifiers

/-!
# What a query text by identifiers asks for

A query text for several identifiers is one equality for each, with the identifier between quotes.
Nothing in it is escaped, so it asks for exactly these identifiers if none of them holds a quote
or a backslash, and for something else otherwise.

- `Text.upToQuote`: a quoted text read up to the quote that ends it.
- `Clause.ReadsEqualities`: a query text read as equalities with the word for alternatives between.
- `anyIdentifier_exact_iff`: when a query text by identifiers is what it is meant to be.
- `anyIdentifier_widened`: one identifier that is taken for two.
-/

namespace CatalogSearch

/-! ## Quoted texts -/

namespace Text

/-- Reads a text up to the quote that ends it: the text, and what comes after the quote. A
backslash makes the next character plain. -/
def upToQuote : List Char → Option (List Char × List Char)
  | [] => none
  | '"' :: cs => some ([], cs)
  | '\\' :: c :: cs => (upToQuote cs).map fun r => (c :: r.1, r.2)
  | c :: cs => (upToQuote cs).map fun r => (c :: r.1, r.2)

/-- No character of the text has to be escaped. -/
def IsVerbatim (s : String) : Prop :=
  ∀ c ∈ s.toList, c ≠ '\\' ∧ c ≠ '"'

instance (s : String) : Decidable (IsVerbatim s) :=
  List.decidableBAll (fun c => c ≠ '\\' ∧ c ≠ '"') s.toList

theorem upToQuote_escape (c : Char) (cs : List Char) :
    upToQuote ('\\' :: c :: cs) = (upToQuote cs).map fun r => (c :: r.1, r.2) := by
  rw [upToQuote]

theorem upToQuote_plain {c : Char} (h : c ≠ '\\' ∧ c ≠ '"') (cs : List Char) :
    upToQuote (c :: cs) = (upToQuote cs).map fun r => (c :: r.1, r.2) := by
  rw [upToQuote]
  · exact fun hc => h.2 hc
  · intro d ds hc hds
    exact h.1 hc

/-- What was escaped is read as it was. -/
theorem upToQuote_escapeChars (cs rest : List Char) :
    upToQuote (escapeChars cs ++ '"' :: rest) = some (cs, rest) := by
  induction cs with
  | nil => rfl
  | cons c cs ih =>
    show upToQuote (escapeChar c ++ escapeChars cs ++ '"' :: rest) = _
    unfold escapeChar
    by_cases hc : c = '\\' ∨ c = '"'
    · rw [if_pos hc]
      show upToQuote ('\\' :: c :: (escapeChars cs ++ '"' :: rest)) = _
      rw [upToQuote_escape, ih]
      rfl
    · rw [if_neg hc]
      rw [not_or] at hc
      show upToQuote (c :: (escapeChars cs ++ '"' :: rest)) = _
      rw [upToQuote_plain hc, ih]
      rfl

theorem escapeChars_of_verbatim {cs : List Char} (h : ∀ c ∈ cs, c ≠ '\\' ∧ c ≠ '"') :
    escapeChars cs = cs := by
  induction cs with
  | nil => rfl
  | cons c cs ih =>
    obtain ⟨hc, hcs⟩ := List.forall_mem_cons.mp h
    have hchar : escapeChar c = [c] := if_neg (not_or.mpr hc)
    show escapeChar c ++ escapeChars cs = _
    rw [hchar, ih hcs]
    rfl

theorem escape_of_verbatim {s : String} (h : IsVerbatim s) : escape s = s := by
  unfold escape
  rw [escapeChars_of_verbatim h, String.ofList_toList]

/-- Only a verbatim text is read as it stands. An escaped character takes two places, so what is
read of a text falls behind it, by `n` backslashes here, and never catches up. -/
theorem verbatim_of_upToQuote :
    ∀ (cs tail rest : List Char) (n : Nat),
      upToQuote (cs ++ '"' :: tail) = some (List.replicate n '\\' ++ cs, rest) →
        n = 0 ∧ (∀ c ∈ cs, c ≠ '\\' ∧ c ≠ '"') ∧ rest = tail
  | [], tail, rest, n, h => by
    have hread : upToQuote ('"' :: tail) = some ([], tail) := rfl
    obtain ⟨hvalue, rfl⟩ := Prod.mk.inj (Option.some.inj (hread.symm.trans h))
    rw [List.append_nil] at hvalue
    exact ⟨(List.replicate_eq_nil_iff _).mp hvalue.symm, List.forall_mem_nil _, rfl⟩
  | c :: cs, tail, rest, n, h => by
    by_cases hquote : c = '"'
    · -- the text ends before the quote
      subst hquote
      have hread : upToQuote ('"' :: (cs ++ '"' :: tail)) = some ([], cs ++ '"' :: tail) := rfl
      have hvalue := (Prod.mk.inj (Option.some.inj (hread.symm.trans h))).1
      exact absurd hvalue.symm (List.append_ne_nil_of_right_ne_nil _ (List.cons_ne_nil _ _))
    by_cases hslash : c = '\\'
    · subst hslash
      -- it makes no difference on which side of the others the backslash is counted
      have hshift : ∀ ds, List.replicate n '\\' ++ '\\' :: ds =
          '\\' :: (List.replicate n '\\' ++ ds) := by
        intro ds
        rw [← List.cons_append, ← List.replicate_succ, List.replicate_succ', List.append_assoc]
        rfl
      rw [hshift] at h
      match cs with
      | [] =>
        obtain ⟨r, -, hr⟩ := Option.map_eq_some_iff.mp ((upToQuote_escape '"' tail).symm.trans h)
        have hhead : '"' = '\\' := (List.cons.inj (Prod.mk.inj hr).1).1
        exact absurd hhead (by decide)
      | d :: ds =>
        obtain ⟨r, hread, hr⟩ :=
          Option.map_eq_some_iff.mp ((upToQuote_escape d (ds ++ '"' :: tail)).symm.trans h)
        obtain ⟨hd, hvalue⟩ := List.cons.inj (Prod.mk.inj hr).1
        -- a backslash was read for two, so that one more is missing from here on
        subst hd
        rw [hshift, ← List.cons_append, ← List.replicate_succ] at hvalue
        have hread' : upToQuote (ds ++ '"' :: tail) =
            some (List.replicate (n + 1) '\\' ++ ds, r.2) := by
          rw [hread, ← hvalue]
        have hn := (verbatim_of_upToQuote ds tail r.2 (n + 1) hread').1
        exact absurd hn (Nat.succ_ne_zero n)
    · have hplain : c ≠ '\\' ∧ c ≠ '"' := ⟨hslash, hquote⟩
      obtain ⟨r, hread, hr⟩ :=
        Option.map_eq_some_iff.mp ((upToQuote_plain hplain (cs ++ '"' :: tail)).symm.trans h)
      obtain ⟨hvalue, rfl⟩ := Prod.mk.inj hr
      cases n with
      | zero =>
        have hvalue' : r.1 = cs := (List.cons.inj hvalue).2
        have hread' : upToQuote (cs ++ '"' :: tail) = some (List.replicate 0 '\\' ++ cs, r.2) := by
          rw [hread, ← hvalue']
          rfl
        obtain ⟨-, hcs, hrest⟩ := verbatim_of_upToQuote cs tail r.2 0 hread'
        exact ⟨rfl, List.forall_mem_cons.mpr ⟨hplain, hcs⟩, hrest⟩
      | succ n =>
        have hhead : c = '\\' := (List.cons.inj hvalue).1
        exact absurd hhead hslash

end Text

/-! ## Equalities -/

namespace Clause

/-- The query text is read as equalities of fields with quoted texts; the name of a field ends at
the first colon. -/
inductive ReadsEqualities : List Char → List (String × String) → Prop where
  /-- The last equality. -/
  | last {field : String} {body value : List Char} (hfield : ':' ∉ field.toList)
    (hbody : Text.upToQuote body = some (value, [])) :
    ReadsEqualities (field.toList ++ ':' :: '"' :: body) [(field, String.ofList value)]
  /-- An equality with another one after it. -/
  | more {field : String} {body value rest : List Char} {members : List (String × String)}
    (hfield : ':' ∉ field.toList)
    (hbody : Text.upToQuote body = some (value, " OR ".toList ++ rest))
    (hrest : ReadsEqualities rest members) :
    ReadsEqualities (field.toList ++ ':' :: '"' :: body) ((field, String.ofList value) :: members)

/-- A text without a mark ends where the mark comes. -/
theorem append_mark_inj {mark : Char} {as bs cs ds : List Char} (ha : mark ∉ as) (hb : mark ∉ bs)
    (heq : as ++ mark :: cs = bs ++ mark :: ds) : as = bs ∧ cs = ds := by
  induction as generalizing bs with
  | nil =>
    cases bs with
    | nil => exact ⟨rfl, (List.cons.inj heq).2⟩
    | cons b bs => exact absurd ((List.cons.inj heq).1 ▸ List.mem_cons_self ..) hb
  | cons a as ih =>
    cases bs with
    | nil => exact absurd ((List.cons.inj heq).1 ▸ List.mem_cons_self ..) ha
    | cons b bs =>
      obtain ⟨rfl, htail⟩ := List.cons.inj heq
      have hparts := ih (fun h => ha (List.mem_cons_of_mem _ h))
        (fun h => hb (List.mem_cons_of_mem _ h)) htail
      exact hparts.imp_left (congrArg (a :: ·))

/-- The name of a field ends at the first colon. -/
theorem fieldName_inj {field field' : String} {cs ds : List Char} (h : ':' ∉ field.toList)
    (h' : ':' ∉ field'.toList) (heq : field.toList ++ ':' :: cs = field'.toList ++ ':' :: ds) :
    field = field' ∧ cs = ds :=
  (append_mark_inj h h' heq).imp_left String.toList_inj.mp

namespace ReadsEqualities

variable {cs body : List Char} {members members' : List (String × String)} {field : String}

/-- The first equality of a query text, with what comes after it. -/
theorem first (h : ReadsEqualities (field.toList ++ ':' :: '"' :: body) members)
    (hfield : ':' ∉ field.toList) :
    ∃ value rest others, Text.upToQuote body = some (value, rest) ∧
      members = (field, String.ofList value) :: others ∧
      (rest = [] ∧ others = [] ∨
        ∃ next, rest = " OR ".toList ++ next ∧ ReadsEqualities next others) := by
  generalize htext : field.toList ++ ':' :: '"' :: body = text at h
  cases h with
  | last hfield' hbody =>
    obtain ⟨rfl, hquote⟩ := fieldName_inj hfield hfield' htext
    obtain rfl := (List.cons.inj hquote).2
    exact ⟨_, _, [], hbody, rfl, .inl ⟨rfl, rfl⟩⟩
  | more hfield' hbody hrest =>
    obtain ⟨rfl, hquote⟩ := fieldName_inj hfield hfield' htext
    obtain rfl := (List.cons.inj hquote).2
    exact ⟨_, _, _, hbody, rfl, .inr ⟨_, rfl, hrest⟩⟩

/-- A query text is read as equalities in one way at most. -/
theorem unique (h : ReadsEqualities cs members) (h' : ReadsEqualities cs members') :
    members = members' := by
  induction h generalizing members' with
  | last hfield hbody =>
    obtain ⟨value, rest, others, hbody', rfl, hrest⟩ := h'.first hfield
    obtain ⟨rfl, rfl⟩ := Prod.mk.inj (Option.some.inj (hbody.symm.trans hbody'))
    rcases hrest with ⟨-, rfl⟩ | ⟨next, hnext, -⟩
    · rfl
    · exact nomatch hnext
  | more hfield hbody _ ih =>
    obtain ⟨value, rest, others, hbody', rfl, hrest⟩ := h'.first hfield
    obtain ⟨rfl, rfl⟩ := Prod.mk.inj (Option.some.inj (hbody.symm.trans hbody'))
    rcases hrest with ⟨hnil, -⟩ | ⟨next, hnext, hothers⟩
    · exact nomatch hnil
    · obtain rfl := List.append_cancel_left hnext
      rw [ih hothers]

end ReadsEqualities

end Clause

/-! ## Query texts by identifiers -/

open Clause

/-- The equalities of a field with identifiers, joined like those of an identifier query. -/
def anyEqual (field : String) (ids : List String) : String :=
  String.intercalate " OR " (ids.map fun id => Comparison.equal.clause field (.text id))

/-- An equality is an identifier between quotes, with what has to be escaped escaped. -/
theorem anyEqual_eq (field : String) (ids : List String) :
    anyEqual field ids = anyIdentifier field (ids.map Text.escape) := by
  have hclause : ∀ id, Comparison.equal.clause field (.text id) =
      field ++ ":\"" ++ Text.escape id ++ "\"" := by
    intro id
    apply String.toList_inj.mp
    simp [Comparison.clause, onField, Literal.term, Text.quote]
  unfold anyEqual anyIdentifier
  rw [List.map_map]
  exact congrArg _ (List.map_congr_left fun id _ => hclause id)

theorem toList_anyIdentifier_singleton (field id : String) :
    (anyIdentifier field [id]).toList =
      field.toList ++ ':' :: '"' :: (id.toList ++ '"' :: []) := by
  simp [anyIdentifier]

theorem toList_anyIdentifier_cons (field id second : String) (ids : List String) :
    (anyIdentifier field (id :: second :: ids)).toList =
      field.toList ++ ':' :: '"' ::
        (id.toList ++ '"' :: (" OR ".toList ++ (anyIdentifier field (second :: ids)).toList)) := by
  simp [anyIdentifier, String.intercalate_cons_cons]

/-- Escaped identifiers are read as they were. -/
theorem readsEqualities_escape {field : String} (hfield : ':' ∉ field.toList) :
    ∀ {ids : List String}, ids ≠ [] →
      ReadsEqualities (anyIdentifier field (ids.map Text.escape)).toList (ids.map (field, ·))
  | [id], _ => by
    have hbody := Text.upToQuote_escapeChars id.toList []
    have hread := ReadsEqualities.last hfield hbody
    rw [String.ofList_toList] at hread
    rw [List.map_singleton, toList_anyIdentifier_singleton, Text.escape, String.toList_ofList]
    exact hread
  | id :: second :: ids, _ => by
    have hrest := readsEqualities_escape hfield (List.cons_ne_nil second ids)
    have hbody := Text.upToQuote_escapeChars id.toList
      (" OR ".toList ++ (anyIdentifier field ((second :: ids).map Text.escape)).toList)
    have hread := ReadsEqualities.more hfield hbody hrest
    rw [String.ofList_toList] at hread
    rw [List.map_cons, List.map_cons, toList_anyIdentifier_cons, Text.escape, String.toList_ofList]
    exact hread

/-- An identifier that is read as it stands is verbatim, and its closing quote ends it. -/
theorem verbatim_of_read {id : String} {tail value rest : List Char}
    (hbody : Text.upToQuote (id.toList ++ '"' :: tail) = some (value, rest))
    (hvalue : id = String.ofList value) : Text.IsVerbatim id ∧ rest = tail := by
  have hchars : value = List.replicate 0 '\\' ++ id.toList := by
    rw [hvalue, String.toList_ofList]
    rfl
  rw [hchars] at hbody
  exact (Text.verbatim_of_upToQuote id.toList tail rest 0 hbody).2

/-- Only verbatim identifiers are read as they stand. -/
theorem verbatim_of_readsEqualities {field : String} (hfield : ':' ∉ field.toList) :
    ∀ {ids : List String},
      ReadsEqualities (anyIdentifier field ids).toList (ids.map (field, ·)) →
        ∀ id ∈ ids, Text.IsVerbatim id
  | [], _ => List.forall_mem_nil _
  | [id], h => by
    rw [toList_anyIdentifier_singleton] at h
    obtain ⟨value, rest, others, hbody, hmembers, -⟩ := h.first hfield
    have hvalue : id = String.ofList value := (Prod.mk.inj (List.cons.inj hmembers).1).2
    exact List.forall_mem_singleton.mpr (verbatim_of_read hbody hvalue).1
  | id :: second :: ids, h => by
    rw [toList_anyIdentifier_cons] at h
    obtain ⟨value, rest, others, hbody, hmembers, hrest⟩ := h.first hfield
    obtain ⟨hfirst, rfl⟩ := List.cons.inj hmembers
    obtain ⟨hid, rfl⟩ := verbatim_of_read hbody (Prod.mk.inj hfirst).2
    rcases hrest with ⟨-, hnil⟩ | ⟨next, hnext, hothers⟩
    · exact nomatch hnil
    · obtain rfl := List.append_cancel_left hnext
      exact List.forall_mem_cons.mpr ⟨hid, verbatim_of_readsEqualities hfield hothers⟩

/-- **Exact identifiers.** The equalities of a field with identifiers are read as they are, and a
query text by identifiers is these equalities, and is read as them, iff no identifier holds a
quote or a backslash. -/
theorem anyIdentifier_exact_iff (field : String) (ids : List String) (hfield : ':' ∉ field.toList)
    (hne : ids ≠ []) :
    (∀ members, ReadsEqualities (anyEqual field ids).toList members ↔
        members = ids.map (field, ·)) ∧
      (anyIdentifier field ids = anyEqual field ids ↔ ∀ id ∈ ids, Text.IsVerbatim id) ∧
      ((∀ members, ReadsEqualities (anyIdentifier field ids).toList members ↔
          members = ids.map (field, ·)) ↔ ∀ id ∈ ids, Text.IsVerbatim id) := by
  have hexact : ∀ members, ReadsEqualities (anyEqual field ids).toList members ↔
      members = ids.map (field, ·) := by
    have hread := readsEqualities_escape hfield hne
    rw [← anyEqual_eq] at hread
    intro members
    refine ⟨fun h => h.unique hread, ?_⟩
    rintro rfl
    exact hread
  have hverbatim : (∀ id ∈ ids, Text.IsVerbatim id) →
      anyIdentifier field ids = anyEqual field ids := by
    intro h
    have hescape : ids.map Text.escape = ids := by
      refine (List.map_congr_left fun id hid => ?_).trans (List.map_id ids)
      exact Text.escape_of_verbatim (h id hid)
    rw [anyEqual_eq, hescape]
  refine ⟨hexact, ⟨fun h => ?_, hverbatim⟩, ⟨fun h => ?_, fun h => ?_⟩⟩
  · refine verbatim_of_readsEqualities hfield ?_
    rw [h]
    exact (hexact _).mpr rfl
  · exact verbatim_of_readsEqualities hfield ((h _).mpr rfl)
  · rw [hverbatim h]
    exact hexact

theorem anyIdentifier_exact_tags :
    ':' ∉ "tag_txt".toList ∧ ["a OR b", "(c)"] ≠ [] ∧
      anyIdentifier "tag_txt" ["a OR b", "(c)"] = anyEqual "tag_txt" ["a OR b", "(c)"] ∧
      ∀ members, ReadsEqualities (anyIdentifier "tag_txt" ["a OR b", "(c)"]).toList members ↔
        members = [("tag_txt", "a OR b"), ("tag_txt", "(c)")] := by
  have hfield : ':' ∉ "tag_txt".toList := by decide
  have hne : ["a OR b", "(c)"] ≠ [] := List.cons_ne_nil _ _
  have hverbatim : ∀ id ∈ ["a OR b", "(c)"], Text.IsVerbatim id := by decide
  obtain ⟨-, hequal, hread⟩ := anyIdentifier_exact_iff "tag_txt" ["a OR b", "(c)"] hfield hne
  exact ⟨hfield, hne, hequal.mpr hverbatim, hread.mpr hverbatim⟩

/-- A quote in an identifier ends it, and what comes after it is read on: one identifier asks for
the records of two, and not for its own. -/
theorem anyIdentifier_widened :
    ReadsEqualities (anyIdentifier "tag_txt" ["a\" OR tag_txt:\"b"]).toList
        [("tag_txt", "a"), ("tag_txt", "b")] ∧
      ¬ ReadsEqualities (anyIdentifier "tag_txt" ["a\" OR tag_txt:\"b"]).toList
        [("tag_txt", "a\" OR tag_txt:\"b")] := by
  have htext : anyIdentifier "tag_txt" ["a\" OR tag_txt:\"b"] =
      anyIdentifier "tag_txt" (["a", "b"].map Text.escape) := rfl
  have hread : ReadsEqualities (anyIdentifier "tag_txt" (["a", "b"].map Text.escape)).toList
      [("tag_txt", "a"), ("tag_txt", "b")] :=
    readsEqualities_escape (by decide) (List.cons_ne_nil _ _)
  rw [htext]
  refine ⟨hread, fun hown => ?_⟩
  have hmembers := hown.unique hread
  exact nomatch (List.cons.inj hmembers).2

end CatalogSearch
