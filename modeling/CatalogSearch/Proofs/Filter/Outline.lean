import CatalogSearch.Proofs.Filter.Grammar
import CatalogSearch.Proofs.Filter.Leaves
import CatalogSearch.Proofs.KeyMap
import CatalogSearch.Schema.Resource

/-!
# The outline of a filter is the one reading of its query text

A written filter is read as its own tree, and as nothing else, whatever its operands hold.

- `Filter.outline?`: the tree of a filter, with the clauses of its tests as leaves.
- `Schema.NamesFields`: the fields of a schema have names that need no escape.
- `ClauseWriter.reads_write`: a written filter is read as its outline.
- `ClauseWriter.write_one_reading`: there is no other reading.
-/

namespace CatalogSearch

open Clause

/-! ## Outlines -/

/-- Members side by side: none are the `empty` clause, and one stands by itself. -/
def Clause.Tree.joined (j : Junction) (empty : Tree) : List Tree → Tree
  | [] => empty
  | [t] => t
  | ts => .group j ts

/-- What the clause of a test is read as: a leaf, or a negated one if the test is that the
property differs. -/
def Test.outline? (schema : Schema) (property : String) (test : Test) : Option Tree :=
  match test.field? schema property, test with
  | none, _ => none
  | some field, .comparison .notEqual value =>
    some (.negation (.leaf (Comparison.equal.clause field value)))
  | some field, test => (test.clause field).toOption.map .leaf

namespace Filter

mutual

/-- The tree of a filter, if every test has a field and a clause. -/
def outline? (schema : Schema) : Filter → Option Tree
  | all children => (outlines? schema children).map (Tree.joined .conjunction .everything)
  | any children => (outlines? schema children).map (Tree.joined .disjunction .nothing)
  | not child => (outline? schema child).map .negation
  | test property wanted => wanted.outline? schema property

/-- The trees of several filters, if all have one. -/
def outlines? (schema : Schema) : List Filter → Option (List Tree)
  | [] => some []
  | f :: fs => (outline? schema f).bind fun t => (outlines? schema fs).map (t :: ·)

end

end Filter

/-! ## Reading what is written -/

namespace Clause

/-- The members of a group after the first one, each with the word before it. -/
theorem toList_members (j : Junction) (first : String) (rest : List String) :
    (String.intercalate (" " ++ j.word ++ " ") (first :: rest)).toList =
      first.toList ++ rest.flatMap fun s => j.next s.toList := by
  induction rest generalizing first with
  | nil => simp
  | cons second rest ih =>
    rw [String.intercalate_cons_cons, String.toList_append, String.toList_append, ih]
    simp [Junction.next]

theorem toList_group (j : Junction) (empty first second : String) (rest : List String) :
    (group j.word empty (first :: second :: rest)).toList =
      '(' :: (first.toList ++ ((second :: rest).flatMap (fun s => j.next s.toList) ++ [')'])) := by
  show ("(" ++ String.intercalate _ (first :: second :: rest) ++ ")").toList = _
  rw [String.toList_append, String.toList_append, toList_members, List.append_assoc,
    List.append_assoc]
  rfl

/-- Grouped clauses are read as their trees side by side. -/
theorem reads_group (j : Junction) {empty : String} {t : Tree} (hempty : Reads empty.toList t)
    {members : List (String × Tree)} (h : ∀ m ∈ members, Reads m.1.toList m.2) :
    Reads (group j.word empty (members.map (·.1))).toList
      (Tree.joined j t (members.map (·.2))) := by
  match members with
  | [] => exact hempty
  | [m] => exact h m (List.mem_cons_self ..)
  | first :: second :: rest =>
    have hrest : ∀ m ∈ (second :: rest).map (fun m => (m.1.toList, m.2)), Reads m.1 m.2 := by
      intro m hm
      obtain ⟨m', hm', rfl⟩ := List.mem_map.mp hm
      exact h m' (List.mem_cons_of_mem _ hm')
    have hgroup := Reads.group j (h first (List.mem_cons_self ..)) hrest (List.cons_ne_nil _ _)
    rw [List.flatMap_map, List.map_map] at hgroup
    rw [List.map_cons, List.map_cons, toList_group, ← List.map_cons, List.flatMap_map]
    exact hgroup

/-- A negated clause is read as the negation of its tree. -/
theorem reads_negation {clause : String} {t : Tree} (h : Reads clause.toList t) :
    Reads (negation clause).toList (.negation t) := by
  have htext : (negation clause).toList =
      '(' :: (matchAll.toList ++ ' ' :: '-' :: (clause.toList ++ [')'])) := by
    simp [negation]
  rw [htext]
  exact .negation h

end Clause

/-- The names of all fields of the schema need no escape. -/
def Schema.NamesFields (schema : Schema) : Prop :=
  ∀ property format phrase options field,
    schema.field? property format phrase options = some field → IsFieldName field

namespace Test

variable {schema : Schema} {property field text : String} {test : Test}

/-- The clause of a difference is read as a negated leaf. -/
theorem reads_notEqual (hname : IsFieldName field) (value : Literal) :
    Reads (Comparison.notEqual.clause field value).toList
      (.negation (.leaf (Comparison.equal.clause field value))) := by
  have hop : Comparison.equal ≠ .notEqual := by decide
  exact reads_negation (.leaf (Comparison.isLeaf_clause hname value hop))

/-- The clause of any other test is a leaf. -/
theorem isLeaf_clause (hname : IsFieldName field)
    (hne : ∀ value, test ≠ .comparison .notEqual value) (h : test.clause field = .ok text) :
    IsLeaf text.toList := by
  cases test with
  | comparison op value =>
    cases h
    exact Comparison.isLeaf_clause hname value fun hop => hne value (hop ▸ rfl)
  | spatial op =>
    cases h
    exact op.isLeaf_clause hname
  | temporal op => exact Temporal.isLeaf_clause hname h
  | text wanted =>
    cases h
    exact wanted.isLeaf_clause hname

/-- The clause of a test is read as its outline. -/
theorem reads_clause (hname : IsFieldName field) (hfield : test.field? schema property = some field)
    (h : test.clause field = .ok text) :
    ∃ t, test.outline? schema property = some t ∧ Reads text.toList t := by
  unfold outline?
  rw [hfield]
  split
  · next heq => cases heq
  · next value heq =>
    cases heq
    cases h
    exact ⟨_, rfl, reads_notEqual hname value⟩
  · next hsome hne =>
    cases hsome
    have hleaf := isLeaf_clause hname hne h
    refine ⟨.leaf text, ?_, .leaf hleaf⟩
    rw [h]
    rfl

end Test

namespace ClauseWriter

variable {w : ClauseWriter}

/-- The clause of a test is written over the field of its property. -/
theorem of_testClause {property : String} {test : Test} {found after : Findings} {text : String}
    (h : (w.testClause property test).run found = (.ok text, after)) :
    ∃ field, test.field? w.schema property = some field ∧ test.clause field = .ok text := by
  unfold testClause at h
  cases hfield : test.field? w.schema property with
  | none =>
    rw [hfield] at h
    cases h
  | some field =>
    rw [hfield] at h
    dsimp only at h
    cases hclause : test.clause field with
    | error failure =>
      rw [hclause] at h
      cases h
    | ok clause =>
      rw [hclause] at h
      cases h
      exact ⟨field, rfl, hclause⟩

mutual

/-- A filter is written as a text that is read as its outline. -/
theorem reads_readAt (hnames : w.schema.NamesFields) :
    ∀ (f : Filter) (level : Nat) (found after : Findings) (text : String),
      (Reading.readAt w.reading level f).run found = (.ok text, after) →
        ∃ t, f.outline? w.schema = some t ∧ Reads text.toList t
  | .all children, level, found, after, text, h => by
    -- the level is checked first, which says nothing about the text
    rw [Reading.readAt] at h
    obtain ⟨-, _, -, h⟩ := ClauseM.exists_of_bind_run h
    obtain ⟨texts, _, htexts, h⟩ := ClauseM.exists_of_bind_run h
    obtain ⟨members, rfl, houtlines, hreads⟩ := reads_readAllAt hnames children _ _ _ _ htexts
    cases h
    refine ⟨_, ?_, reads_group .conjunction .everything hreads⟩
    rw [Filter.outline?, houtlines]
    rfl
  | .any children, level, found, after, text, h => by
    rw [Reading.readAt] at h
    obtain ⟨-, _, -, h⟩ := ClauseM.exists_of_bind_run h
    obtain ⟨texts, _, htexts, h⟩ := ClauseM.exists_of_bind_run h
    obtain ⟨members, rfl, houtlines, hreads⟩ := reads_readAllAt hnames children _ _ _ _ htexts
    cases h
    refine ⟨_, ?_, reads_group .disjunction .nothing hreads⟩
    rw [Filter.outline?, houtlines]
    rfl
  | .not child, level, found, after, text, h => by
    rw [Reading.readAt] at h
    obtain ⟨-, _, -, h⟩ := ClauseM.exists_of_bind_run h
    obtain ⟨clause, _, hclause, h⟩ := ClauseM.exists_of_bind_run h
    obtain ⟨t, houtline, hreads⟩ := reads_readAt hnames child _ _ _ _ hclause
    cases h
    refine ⟨_, ?_, reads_negation hreads⟩
    rw [Filter.outline?, houtline]
    rfl
  | .test property wanted, level, found, after, text, h => by
    rw [Reading.readAt] at h
    obtain ⟨-, _, -, h⟩ := ClauseM.exists_of_bind_run h
    obtain ⟨field, hfield, hclause⟩ := of_testClause h
    rw [Filter.outline?]
    exact Test.reads_clause (hnames _ _ _ _ _ hfield) hfield hclause

/-- Several filters are written as texts that are read as their outlines. -/
theorem reads_readAllAt (hnames : w.schema.NamesFields) :
    ∀ (fs : List Filter) (level : Nat) (found after : Findings) (texts : List String),
      (Reading.readAllAt w.reading level fs).run found = (.ok texts, after) →
        ∃ members : List (String × Tree), texts = members.map (·.1) ∧
          Filter.outlines? w.schema fs = some (members.map (·.2)) ∧
          ∀ m ∈ members, Reads m.1.toList m.2
  | [], level, found, after, texts, h => by
    rw [Reading.readAllAt] at h
    cases h
    exact ⟨[], rfl, rfl, List.forall_mem_nil _⟩
  | f :: fs, level, found, after, texts, h => by
    rw [Reading.readAllAt] at h
    obtain ⟨text, _, htext, h⟩ := ClauseM.exists_of_bind_run h
    obtain ⟨rest, _, hrest, h⟩ := ClauseM.exists_of_bind_run h
    obtain ⟨t, houtline, hread⟩ := reads_readAt hnames f _ _ _ _ htext
    obtain ⟨members, rfl, houtlines, hreads⟩ := reads_readAllAt hnames fs _ _ _ _ hrest
    cases h
    refine ⟨(text, t) :: members, rfl, ?_, ?_⟩
    · rw [Filter.outlines?, houtline, houtlines]
      rfl
    · exact List.forall_mem_cons.mpr ⟨hread, hreads⟩

end

/-- **One reading.** The query text of a written filter has one reading as a clause, which is the
filter's own tree, whatever texts its operands hold. -/
theorem write_one_reading (w : ClauseWriter) (f : Filter) (text : String) (found : Findings)
    (hnames : w.schema.NamesFields) (h : w.write f = (.ok text, found)) :
    ∃ t, f.outline? w.schema = some t ∧ ∀ t', Reads text.toList t' ↔ t' = t := by
  obtain ⟨t, houtline, hreads⟩ := reads_readAt hnames f 1 {} found text h
  refine ⟨t, houtline, fun t' => ⟨fun h' => h'.unique hreads, ?_⟩⟩
  rintro rfl
  exact hreads

end ClauseWriter

/-! ## Suffix schemas -/

/-- The fields of a suffix schema are the names of its attributes, each with a suffix. -/
theorem SuffixSchema.field?_inv {s : SuffixSchema} {property field : String} {format : Format}
    {phrase : Bool} {options : FieldOptions}
    (h : s.schema.field? property format phrase options = some field) :
    property ∈ s.attributes.keys ∧ ∃ registered, field = property ++ Suffix.of registered := by
  have htyped : s.typedField? property = some field := h
  obtain ⟨registered, hget, rfl⟩ := Option.map_eq_some_iff.mp htyped
  refine ⟨?_, registered, rfl⟩
  rw [KeyMap.mem_keys_iff, hget]
  rfl

/-- A suffix schema names fields well if its attributes are named so; no suffix does harm. -/
theorem SuffixSchema.namesFields {s : SuffixSchema}
    (h : ∀ name ∈ s.attributes.keys, IsFieldName name) : s.schema.NamesFields := by
  have hsuffix : ∀ format, IsFieldName (Suffix.of format) := by
    intro format
    cases format <;> decide
  intro property format phrase options field hfield
  obtain ⟨hkey, registered, rfl⟩ := s.field?_inv hfield
  intro c hc
  rw [String.toList_append] at hc
  rcases List.mem_append.mp hc with hc | hc
  · exact h property hkey c hc
  · exact hsuffix registered c hc

theorem Resource.namesFields : Resource.schema.schema.NamesFields :=
  SuffixSchema.namesFields (by decide)

/-- Operands that would regroup the query if they were not quoted and escaped. -/
def hostileFilter : Filter :=
  .any [
    .not (.test Resource.title (.comparison .notEqual (.text "a\" OR (\"b\\"))),
    .test Resource.title (.text { pattern := "(x)[y\x7d", fuzzy := true }),
    .all [
      .test Resource.title (.comparison .less (.text "] AND \x7b")),
      .test Metacard.locationAttribute (.spatial (.intersects "POINT (1 2)\") OR (\""))],
    .all []]

theorem ClauseWriter.write_one_reading_hostile :
    ∃ text found t,
      write ⟨Resource.schema.schema, false⟩ hostileFilter = (.ok text, found) ∧
        hostileFilter.outline? Resource.schema.schema = some t ∧
        ∀ t', Reads text.toList t' ↔ t' = t := by
  obtain ⟨text, found, h⟩ : ∃ text found,
      write ⟨Resource.schema.schema, false⟩ hostileFilter = (.ok text, found) := ⟨_, _, rfl⟩
  obtain ⟨t, ht⟩ :=
    write_one_reading ⟨Resource.schema.schema, false⟩ hostileFilter text found
      Resource.namesFields h
  exact ⟨text, found, t, h, ht⟩

end CatalogSearch
