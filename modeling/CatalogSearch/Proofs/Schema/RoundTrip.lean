import CatalogSearch.Proofs.KeyMap
import CatalogSearch.Proofs.Outcomes
import CatalogSearch.Proofs.Schema.Naming

/-!
# Records written and read back

- `Document.foldl_put`: values put into new fields come after those that are there.
- `SuffixSchema.addFields_run`: the fields that a record is written to.
- `SuffixSchema.IsWritten`: the document of a record, with a field for each attribute.
- `SuffixSchema.metacard_document`: the record is written, and what is read back is the record
  without its attributes that are named like those with split words.
-/

namespace CatalogSearch

namespace Document

/-- New fields come last. -/
theorem update_of_notMem {name : String} {l : List (String × List Json)}
    (h : name ∉ l.map (·.1)) (f : List Json → List Json) :
    update name f l = l ++ [(name, f [])] := by
  induction l with
  | nil => rfl
  | cons e l ih =>
    rw [List.map_cons, List.mem_cons, not_or] at h
    obtain ⟨he, hl⟩ := h
    rw [update, if_neg (Ne.symm he), ih hl]
    rfl

theorem put_of_notMem {d : Document} {name : String} (h : name ∉ d.names) (values : List Json) :
    d.put name values = ⟨d.fields ++ [(name, values)]⟩ :=
  congrArg Document.mk (update_of_notMem h _)

/-- Values put into distinct new fields are the values of these fields. -/
theorem foldl_put {d : Document} {l : List (String × List Json)}
    (h : (d.names ++ l.map (·.1)).Nodup) :
    l.foldl (fun d e => d.put e.1 e.2) d = ⟨d.fields ++ l⟩ := by
  induction l generalizing d with
  | nil => simp
  | cons e l ih =>
    have hnew : e.1 ∉ d.names := by
      intro he
      exact (List.nodup_append.mp h).2.2 e.1 he e.1 (by simp) rfl
    have hput : d.put e.1 e.2 = ⟨d.fields ++ [e]⟩ := put_of_notMem hnew e.2
    rw [List.foldl_cons, hput, ih, List.append_assoc]
    · rfl
    · simpa [names] using h

/-- If no two fields share a name, the values of each field are found under its name. -/
theorem values?_of_mem {d : Document} (h : d.names.Nodup) {name : String} {values : List Json}
    (hmem : (name, values) ∈ d.fields) : d.values? name = some values :=
  KeyMap.lookup_of_mem h hmem

end Document

/-- Attributes that are set one after the other are those of the map of their list. -/
theorem Metacard.foldl_set (type : MetacardType) (attributes : List Attribute) :
    attributes.foldl Metacard.set { type := type } =
      ⟨type, .ofList (attributes.map fun a => (a.name, a))⟩ := by
  -- the fold goes on from any attributes that are held
  have hfold : ∀ held : KeyMap Attribute,
      attributes.foldl Metacard.set ⟨type, held⟩ =
        ⟨type, (attributes.map fun a => (a.name, a)).foldl (fun m e => m.insert e.1 e.2) held⟩ := by
    induction attributes with
    | nil => intro held; rfl
    | cons a attributes ih => intro held; exact ih (held.insert a.name a)
  exact hfold .empty

namespace SuffixSchema

/-- The field that a record of a type has for an attribute of known format. -/
def recordField (s : SuffixSchema) (type : MetacardType) (name : String) : String :=
  name ++ ((s.formatOf? type name).map Suffix.of).getD ""

/-- The fields of a record: one for each attribute, with its values, and then the name of its
type. -/
def recordFields (s : SuffixSchema) (m : Metacard) : List (String × List Json) :=
  m.attributes.values.map (fun a => (s.recordField m.type a.name, a.values)) ++
    [(typeField, [.str m.type.name])]

/-- What a record is written as. -/
structure IsWritten (s : SuffixSchema) (m : Metacard) (doc : Document) : Prop where
  /-- It holds the fields of the record, in this order. -/
  fields : doc.fields = s.recordFields m
  /-- No two of them share a field. -/
  distinct : doc.names.Nodup

variable {s : SuffixSchema} {type : MetacardType}

theorem exists_recordField {name : String} (h : (s.formatOf? type name).isSome) :
    ∃ format, s.formatOf? type name = some format ∧
      s.recordField type name = name ++ Suffix.of format := by
  obtain ⟨format, hformat⟩ := Option.isSome_iff_exists.mp h
  refine ⟨format, hformat, ?_⟩
  rw [recordField, hformat]
  rfl

/-! ## Writing -/

/-- An attribute of known format is put into its field. -/
theorem addAttribute_run {a : Attribute} (h : (s.formatOf? type a.name).isSome) (d : Document) :
    (s.addAttribute type a).run d = (.ok (), d.put (s.recordField type a.name) a.values) := by
  obtain ⟨format, hformat, hfield⟩ := exists_recordField h
  unfold addAttribute
  rw [hformat, hfield]
  rfl

theorem forM_addAttribute_run {attributes : List Attribute}
    (h : ∀ a ∈ attributes, (s.formatOf? type a.name).isSome) (d : Document) :
    (attributes.forM (s.addAttribute type)).run d =
      (.ok (), (attributes.map fun a => (s.recordField type a.name, a.values)).foldl
        (fun d e => d.put e.1 e.2) d) := by
  induction attributes generalizing d with
  | nil => rfl
  | cons a attributes ih =>
    obtain ⟨ha, hrest⟩ := List.forall_mem_cons.mp h
    show (s.addAttribute type a >>= fun _ => attributes.forM (s.addAttribute type)).run d = _
    rw [bind_run_of_ok (addAttribute_run ha d), ih hrest]
    rfl

variable {m : Metacard}

theorem addFields_run (hformats : ∀ a ∈ m.attributes.values, (s.formatOf? m.type a.name).isSome)
    (d : Document) :
    (s.addFields m).run d =
      (.ok (), (s.recordFields m).foldl (fun d e => d.put e.1 e.2) d) := by
  rw [addFields, bind_run_of_ok (forM_addAttribute_run hformats d), recordFields,
    List.foldl_append]
  rfl

/-- Attributes of different names have different fields, none of them the one that names the
type. -/
theorem recordFields_nodup (hkeys : m.attributes.KeyedBy Attribute.name)
    (hformats : ∀ a ∈ m.attributes.values, (s.formatOf? m.type a.name).isSome) :
    ((s.recordFields m).map (·.1)).Nodup := by
  rw [recordFields, List.map_append, List.map_map]
  refine List.nodup_append.mpr ⟨?_, List.pairwise_singleton _ _, ?_⟩
  · -- the names of the attributes increase, and a field gives the name of its attribute back
    refine List.pairwise_map.mpr (hkeys.values_ordered.imp_of_mem fun {a b} ha hb hlt heq => ?_)
    have heq : s.recordField m.type a.name = s.recordField m.type b.name := heq
    obtain ⟨format, -, hfield⟩ := exists_recordField (hformats a ha)
    obtain ⟨format', -, hfield'⟩ := exists_recordField (hformats b hb)
    rw [hfield, hfield'] at heq
    rw [name_eq_of_append_eq heq] at hlt
    exact String.lt_irrefl _ hlt
  · -- the field of the type is reserved
    intro field hfield other hother heq
    obtain ⟨a, ha, rfl⟩ := List.mem_map.mp hfield
    obtain rfl : other = typeField := List.mem_singleton.mp hother
    have heq : s.recordField m.type a.name = typeField := heq
    obtain ⟨format, -, hfield⟩ := exists_recordField (hformats a ha)
    refine append_notMem_reserved a.name format ?_
    rw [← hfield, heq]
    exact List.mem_cons_self

/-- A record whose attributes have known formats is written. -/
theorem document_isWritten (hkeys : m.attributes.KeyedBy Attribute.name)
    (hformats : ∀ a ∈ m.attributes.values, (s.formatOf? m.type a.name).isSome) :
    ∃ doc, s.schema.document m = .ok doc ∧ s.IsWritten m doc := by
  have hdistinct : ((s.recordFields m).map (·.1)).Nodup := recordFields_nodup hkeys hformats
  have hput : (s.recordFields m).foldl (fun d e => d.put e.1 e.2) Document.empty =
      ⟨s.recordFields m⟩ := Document.foldl_put hdistinct
  have hrun : (s.schema.addFields m).run Document.empty = (.ok (), ⟨s.recordFields m⟩) := by
    rw [← hput]
    exact addFields_run hformats Document.empty
  refine ⟨⟨s.recordFields m⟩, ?_, rfl, hdistinct⟩
  unfold Schema.document
  rw [hrun]

/-! ## Reading back -/

/-- The type of a written record is found if it is registered. -/
theorem IsWritten.typeOf_eq {doc : Document} (h : s.IsWritten m doc)
    (htype : s.types.get? m.type.name = some m.type) : s.typeOf doc = .ok m.type := by
  have hvalues : doc.values? typeField = some [.str m.type.name] := by
    refine Document.values?_of_mem h.distinct ?_
    rw [h.fields]
    exact List.mem_append_right _ (List.mem_singleton_self _)
  have hname : (doc.first? typeField).bind Json.asString? = some m.type.name := by
    rw [Document.first?, hvalues]
    rfl
  unfold typeOf
  rw [hname]
  dsimp only
  rw [htype]

/-- The attribute is read back: it is not named like one with split words. -/
def isKept (a : Attribute) : Bool :=
  !Text.holds a.name tokenizedPart

/-- The fields that are shown are those of the kept attributes. -/
theorem filter_recordFields
    (hformats : ∀ a ∈ m.attributes.values, (s.formatOf? m.type a.name).isSome) :
    (s.recordFields m).filter (fun f => !isPrivate f.1) =
      (m.attributes.values.filter isKept).map
        fun a => (s.recordField m.type a.name, a.values) := by
  have htype : [(typeField, [Json.str m.type.name])].filter (fun f => !isPrivate f.1) = [] := by
    simp [isPrivate]
  rw [recordFields, List.filter_append, htype, List.append_nil, List.filter_map]
  congr 1
  refine List.filter_congr fun a ha => ?_
  obtain ⟨format, -, hfield⟩ := exists_recordField (hformats a ha)
  show (!isPrivate (s.recordField m.type a.name)) = isKept a
  rw [hfield, isPrivate_append]
  rfl

/-- The field of an attribute is read as the attribute. -/
theorem map_recordField {attributes : List Attribute}
    (h : ∀ a ∈ attributes, (s.formatOf? type a.name).isSome) :
    (attributes.map fun a => (s.recordField type a.name, a.values)).map
      (fun f => (⟨shownName f.1, f.2⟩ : Attribute)) = attributes := by
  rw [List.map_map]
  refine (List.map_congr_left fun a ha => ?_).trans (List.map_id _)
  obtain ⟨format, -, hfield⟩ := exists_recordField (h a ha)
  show (⟨shownName (s.recordField type a.name), a.values⟩ : Attribute) = a
  rw [hfield, shownName_append]

/-- What is read from the document of a record of a registered type: its kept attributes. -/
theorem IsWritten.metacard_eq {doc : Document} (h : s.IsWritten m doc)
    (htype : s.types.get? m.type.name = some m.type)
    (hkeys : m.attributes.KeyedBy Attribute.name)
    (hformats : ∀ a ∈ m.attributes.values, (s.formatOf? m.type a.name).isSome) :
    s.schema.metacard doc = .ok { m with attributes := m.attributes.filter isKept } := by
  have hkept : ∀ a ∈ m.attributes.values.filter isKept, (s.formatOf? m.type a.name).isSome :=
    fun a ha => hformats a (List.mem_filter.mp ha).1
  have hread : (doc.fields.filter fun f => !isPrivate f.1).map
      (fun f => (⟨shownName f.1, f.2⟩ : Attribute)) = m.attributes.values.filter isKept := by
    rw [h.fields, filter_recordFields hformats, map_recordField hkept]
  calc s.schema.metacard doc
    _ = .ok ((doc.fields.filter fun f => !isPrivate f.1).foldl
          (fun m f => m.set ⟨shownName f.1, f.2⟩) { type := m.type }) := by
      show (s.typeOf doc).bind _ = _
      rw [h.typeOf_eq htype]
      rfl
    _ = .ok ((m.attributes.values.filter isKept).foldl Metacard.set { type := m.type }) := by
      rw [← hread, List.foldl_map]
    _ = .ok ⟨m.type, .ofList ((m.attributes.values.filter isKept).map fun a => (a.name, a))⟩ := by
      rw [Metacard.foldl_set]
    _ = .ok { m with attributes := m.attributes.filter isKept } := by
      rw [hkeys.ofList_filter]

/-- **Round trip.** A record of a registered type whose attributes have known formats is written,
each attribute under a field of its own, and what is read back is the record without the
attributes that are named like those with split words. -/
theorem metacard_document (s : SuffixSchema) (m : Metacard)
    (htype : s.types.get? m.type.name = some m.type)
    (hkeys : m.attributes.KeyedBy Attribute.name)
    (hformats : ∀ a ∈ m.attributes.values, (s.formatOf? m.type a.name).isSome) :
    ∃ doc, s.schema.document m = .ok doc ∧ s.IsWritten m doc ∧
      s.schema.metacard doc = .ok { m with
        attributes := m.attributes.filter fun a => !Text.holds a.name tokenizedPart } := by
  obtain ⟨doc, hdoc, hwritten⟩ := document_isWritten hkeys hformats
  exact ⟨doc, hdoc, hwritten, hwritten.metacard_eq htype hkeys hformats⟩

/-- A type with attributes that are named like fields of other ones and like private fields. -/
def sampleType : MetacardType where
  name := "sample"
  descriptors := [⟨"a_txt", .string, true⟩, ⟨"x_sort", .integer, false⟩, ⟨"_version_", .xml, false⟩]

/-- A schema that knows the type, and two attributes more. -/
def sampleSchema : SuffixSchema :=
  ((registerType {} sampleType).register "score" .double).register "a_tokenized" .date

/-- A record with a value twice, an attribute without values, and one that is not read back. -/
def sampleRecord : Metacard where
  type := sampleType
  attributes := .ofList [
    ("x_sort", ⟨"x_sort", [.bool true]⟩),
    ("a_txt", ⟨"a_txt", [.str "b", .str "a", .str "b"]⟩),
    ("a_tokenized", ⟨"a_tokenized", [.str "a"]⟩),
    ("score", ⟨"score", []⟩),
    ("_version_", ⟨"_version_", [.null]⟩)]

theorem metacard_document_sample :
    ∃ doc read, sampleSchema.schema.document sampleRecord = .ok doc ∧
      sampleSchema.IsWritten sampleRecord doc ∧ sampleSchema.schema.metacard doc = .ok read ∧
      read.attributes.keys = ["_version_", "a_txt", "score", "x_sort"] := by
  have htype : sampleSchema.types.get? sampleRecord.type.name = some sampleRecord.type := by
    decide
  have hkeys : sampleRecord.attributes.KeyedBy Attribute.name := by
    unfold KeyMap.KeyedBy
    decide
  have hformats : ∀ a ∈ sampleRecord.attributes.values,
      (sampleSchema.formatOf? sampleRecord.type a.name).isSome := by
    decide
  obtain ⟨doc, hdoc, hwritten, hread⟩ :=
    metacard_document sampleSchema sampleRecord htype hkeys hformats
  exact ⟨doc, _, hdoc, hwritten, hread, by decide⟩

end SuffixSchema

end CatalogSearch
