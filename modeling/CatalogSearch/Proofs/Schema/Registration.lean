import CatalogSearch.Proofs.Schema.RoundTrip

/-!
# Registered formats and written ones

A schema is built by registering attributes and types. It answers with the format registered last,
while a record is written with the format that its own type gives.

- `Registration`, `SuffixSchema.ofRegistrations`: a schema with its history.
- `Registration.lastFormat?`: the format registered last for a name.
- `SuffixSchema.writtenAttributes`, `SuffixSchema.addFields_puts`: what is written of any record,
  also of one with an attribute of unknown format.
- `SuffixSchema.Answers`: the schema answers with a field, and with no other one.
- `SuffixSchema.addFields_answers_iff`: an attribute is written to the field that the schema
  answers with iff its type, if it describes it, gives the format registered last.
-/

namespace CatalogSearch

/-- The suffix tells the format. -/
theorem Suffix.of_injective {format format' : Format} (h : of format = of format') :
    format = format' := by
  have hread : ∀ f : Format, Format.names.find? (fun e => of e.2 = of f) = some (f.name, f) := by
    intro f
    cases f <;> rfl
  have hsame := hread format
  rw [h, hread format'] at hsame
  exact (Prod.mk.inj (Option.some.inj hsame)).2.symm

/-- What can be registered in a schema. -/
inductive Registration where
  /-- An attribute of its own. -/
  | single (name : String) (format : Format)
  /-- A type, with all attributes that it describes. -/
  | described (type : MetacardType)

namespace Registration

/-- The attributes that are registered, in order. -/
def formats : Registration → List (String × Format)
  | .single name format => [(name, format)]
  | .described type => type.descriptors.map fun d => (d.name, d.format)

/-- The format registered last for a name. -/
def lastFormat? (rs : List Registration) (name : String) : Option Format :=
  KeyMap.lookup name (rs.flatMap formats).reverse

end Registration

namespace SuffixSchema

/-- The schema after one more registration. -/
def add (s : SuffixSchema) : Registration → SuffixSchema
  | .single name format => s.register name format
  | .described type => s.registerType type

/-- The schema with these registrations. -/
def ofRegistrations (rs : List Registration) : SuffixSchema :=
  rs.foldl add {}

theorem attributes_foldl_register (descriptors : List Descriptor) (s : SuffixSchema) :
    (descriptors.foldl (fun s d => s.register d.name d.format) s).attributes =
      (descriptors.map fun d => (d.name, d.format)).foldl (fun m e => m.insert e.1 e.2)
        s.attributes := by
  induction descriptors generalizing s with
  | nil => rfl
  | cons d descriptors ih => exact ih (s.register d.name d.format)

theorem attributes_add (s : SuffixSchema) (r : Registration) :
    (s.add r).attributes = r.formats.foldl (fun m e => m.insert e.1 e.2) s.attributes := by
  cases r with
  | single name format => rfl
  | described type => exact attributes_foldl_register type.descriptors s

/-- A schema knows for each name the format registered last. -/
theorem attributes_ofRegistrations (rs : List Registration) (name : String) :
    (ofRegistrations rs).attributes.get? name = Registration.lastFormat? rs name := by
  -- the registrations go on from any schema
  have hfold : ∀ s : SuffixSchema, (rs.foldl add s).attributes =
      (rs.flatMap Registration.formats).foldl (fun m e => m.insert e.1 e.2) s.attributes := by
    induction rs with
    | nil => intro s; rfl
    | cons r rs ih =>
      intro s
      rw [List.foldl_cons, ih, attributes_add, List.flatMap_cons, List.foldl_append]
  rw [Registration.lastFormat?, ← KeyMap.get?_ofList, ofRegistrations, hfold]
  rfl

/-! ## What is written -/

/-- The attributes that are written: all, or those before the first of unknown format. -/
def writtenAttributes (s : SuffixSchema) (m : Metacard) : List Attribute :=
  m.attributes.values.takeWhile fun a => (s.formatOf? m.type a.name).isSome

/-- The fields that are written: those of the written attributes, and the one with the name of the
type if these are all. -/
def writtenFields (s : SuffixSchema) (m : Metacard) : List (String × List Json) :=
  (s.writtenAttributes m).map (fun a => (s.recordField m.type a.name, a.values)) ++
    if m.attributes.values.all fun a => (s.formatOf? m.type a.name).isSome then
      [(typeField, [.str m.type.name])]
    else []

variable {s : SuffixSchema} {m : Metacard}

/-- Writing stops before the first attribute of unknown format. -/
theorem addFields_run_unknown {known rest : List Attribute} {a : Attribute}
    (hvalues : m.attributes.values = known ++ a :: rest)
    (hknown : ∀ b ∈ known, (s.formatOf? m.type b.name).isSome)
    (ha : s.formatOf? m.type a.name = none) (d : Document) :
    (s.addFields m).run d = (.error (.unknownFormat a.name),
      (known.map fun a => (s.recordField m.type a.name, a.values)).foldl
        (fun d e => d.put e.1 e.2) d) := by
  have hattributes : (m.attributes.values.forM (s.addAttribute m.type)).run d =
      (.error (.unknownFormat a.name),
        (known.map fun a => (s.recordField m.type a.name, a.values)).foldl
          (fun d e => d.put e.1 e.2) d) := by
    have hfault : ∀ d, (s.addAttribute m.type a).run d = (.error (.unknownFormat a.name), d) := by
      intro d
      unfold addAttribute
      rw [ha]
      rfl
    rw [hvalues, List.forM_eq_forM, List.forM_append]
    exact (bind_run_of_ok (forM_addAttribute_run hknown d)).trans (bind_run_of_error (hfault _))
  exact bind_run_of_error hattributes

theorem formatOf?_isSome_of_mem_written {a : Attribute} (h : a ∈ s.writtenAttributes m) :
    (s.formatOf? m.type a.name).isSome :=
  List.all_eq_true.mp List.all_takeWhile a h

/-- What is written of a record into a document. -/
theorem addFields_puts (s : SuffixSchema) (m : Metacard) (d : Document) :
    ((s.addFields m).run d).2 = (s.writtenFields m).foldl (fun d e => d.put e.1 e.2) d := by
  have hsplit : m.attributes.values = s.writtenAttributes m ++
      m.attributes.values.dropWhile fun a => (s.formatOf? m.type a.name).isSome :=
    List.takeWhile_append_dropWhile.symm
  have hknown : ∀ a ∈ s.writtenAttributes m, (s.formatOf? m.type a.name).isSome :=
    fun _ ha => formatOf?_isSome_of_mem_written ha
  have hstop := List.head?_dropWhile_not
    (fun a => (s.formatOf? m.type a.name).isSome) m.attributes.values
  unfold writtenFields
  cases hrest : m.attributes.values.dropWhile fun a => (s.formatOf? m.type a.name).isSome with
  | nil =>
    rw [hrest, List.append_nil] at hsplit
    rw [← hsplit] at hknown ⊢
    rw [if_pos (List.all_eq_true.mpr hknown), addFields_run hknown]
    rfl
  | cons a rest =>
    rw [hrest] at hsplit hstop
    have hnone : s.formatOf? m.type a.name = none :=
      Option.not_isSome_iff_eq_none.mp (Bool.eq_false_iff.mp hstop)
    have hmem : a ∈ m.attributes.values := by
      rw [hsplit]
      exact List.mem_append_right _ List.mem_cons_self
    have hnot : ¬ m.attributes.values.all (fun a => (s.formatOf? m.type a.name).isSome) := by
      intro hall
      have hsome : (s.formatOf? m.type a.name).isSome := List.all_eq_true.mp hall a hmem
      rw [hnone] at hsome
      exact nomatch hsome
    rw [if_neg hnot, List.append_nil, addFields_run_unknown hsplit hknown hnone]

/-! ## What is answered -/

/-- The schema answers with this field for an attribute, whatever it is asked for, and with no
other one. -/
structure Answers (s : SuffixSchema) (name field : String) : Prop where
  typed : ∀ format phrase options, s.schema.field? name format phrase options = some field
  stored : s.schema.storedFields name = [field]

theorem answers_iff {name field : String} :
    s.Answers name field ↔ s.typedField? name = some field := by
  constructor
  · exact fun h => h.typed .string false .empty
  · intro h
    refine ⟨fun _ _ _ => h, ?_⟩
    show (s.typedField? name).toList = _
    rw [h]
    rfl

/-- The field of a record is the one that the schema answers with iff the format is the registered
one. -/
theorem answers_recordField_iff {type : MetacardType} {name : String} {format : Format}
    (h : s.formatOf? type name = some format) :
    s.Answers name (s.recordField type name) ↔ s.attributes.get? name = some format := by
  have hfield : s.recordField type name = name ++ Suffix.of format := by
    rw [recordField, h]
    rfl
  rw [answers_iff, hfield, typedField?, Option.map_eq_some_iff]
  constructor
  · rintro ⟨registered, hregistered, heq⟩
    rw [hregistered, Suffix.of_injective ((String.append_right_inj name).mp heq)]
  · exact fun hregistered => ⟨format, hregistered, rfl⟩

/-- **Writes and answers.** Into any document, a record is written attribute by attribute up to the
first of unknown format. A written attribute is in the field that the schema answers with iff the
type of the record does not describe it or gives the format that was registered last. -/
theorem addFields_answers_iff (rs : List Registration) (m : Metacard) (d : Document) :
    let s := ofRegistrations rs
    ((s.addFields m).run d).2 = (s.writtenFields m).foldl (fun d e => d.put e.1 e.2) d ∧
      ∀ a ∈ s.writtenAttributes m, s.Answers a.name (s.recordField m.type a.name) ↔
        ∀ own, m.type.descriptor? a.name = some own →
          Registration.lastFormat? rs a.name = some own.format := by
  intro s
  refine ⟨addFields_puts s m d, fun a ha => ?_⟩
  obtain ⟨format, hformat⟩ :=
    Option.isSome_iff_exists.mp (formatOf?_isSome_of_mem_written ha)
  rw [answers_recordField_iff hformat, attributes_ofRegistrations]
  unfold formatOf? at hformat
  cases hown : m.type.descriptor? a.name with
  | none =>
    -- The format of the record is the registered one itself.
    rw [hown, attributes_ofRegistrations] at hformat
    exact iff_of_true hformat nofun
  | some own =>
    rw [hown] at hformat
    obtain rfl : own.format = format := Option.some.inj hformat
    constructor
    · rintro hlast _ ⟨⟩
      exact hlast
    · exact fun hagree => hagree own rfl

/-- Two types that describe one attribute differently. -/
def noteType : MetacardType where
  name := "note"
  descriptors := [⟨"when", .string, false⟩]
def eventType : MetacardType where
  name := "event"
  descriptors := [⟨"when", .date, false⟩]

/-- A record of the type registered first. -/
def noteRecord : Metacard where
  type := noteType
  attributes := .ofList [("when", ⟨"when", [.str "tomorrow"]⟩)]

/-- The record of a registered type is written to a field that the schema does not answer with. -/
theorem addFields_misses :
    let s := ofRegistrations [.described noteType, .described eventType]
    s.types.get? noteRecord.type.name = some noteRecord.type ∧
      (∃ doc, s.schema.document noteRecord = .ok doc ∧ doc.names = ["when_txt", typeField]) ∧
      s.Answers "when" "when_tdt" ∧ ¬ s.Answers "when" "when_txt" := by
  refine ⟨by decide, ⟨_, rfl, by decide⟩, answers_iff.mpr (by decide), fun h => ?_⟩
  exact absurd (answers_iff.mp h) (by decide)

end SuffixSchema

end CatalogSearch
