import CatalogSearch.Proofs.Engine.Calls
import CatalogSearch.Proofs.Schema.Registration
import CatalogSearch.Service.Records

/-!
# Storing records

Records are turned into documents before anything is written. So one attribute of unknown format
keeps all of them out, and else there is one write for all.

- `SuffixSchema.unknownOf`, `SuffixSchema.unknownAttributes`: what keeps a record, and records,
  from being written.
- `SuffixSchema.mapM_document`, `SuffixSchema.mapM_document_error`: the documents of records, or
  why there are none.
- `Service.StoresBy`: the write for records, by a forced commit and by their types.
- `Service.store_once`: all records are written with one call, or none of them.
-/

namespace CatalogSearch

namespace SuffixSchema

/-! ## Records as documents -/

/-- Neither the type of a record nor the schema knows the attribute. -/
def IsUnknown (s : SuffixSchema) (type : MetacardType) (name : String) : Prop :=
  (∀ d ∈ type.descriptors, d.name ≠ name) ∧ name ∉ s.attributes.keys

instance (s : SuffixSchema) (type : MetacardType) (name : String) :
    Decidable (s.IsUnknown type name) :=
  inferInstanceAs (Decidable (_ ∧ _))

/-- The unknown attributes of a record, in the order of its map. -/
def unknownOf (s : SuffixSchema) (m : Metacard) : List Attribute :=
  m.attributes.values.filter fun a => s.IsUnknown m.type a.name

/-- The unknown attributes, record by record. -/
def unknownAttributes (s : SuffixSchema) (records : List Metacard) : List Attribute :=
  records.flatMap s.unknownOf

/-- The document that a record of known attributes is written as. -/
def recordDocument (s : SuffixSchema) (m : Metacard) : Document :=
  (s.recordFields m).foldl (fun d e => d.put e.1 e.2) .empty

variable {s : SuffixSchema} {m : Metacard} {records : List Metacard}

/-- The unknown attributes are those without a format. -/
theorem isUnknown_iff {type : MetacardType} {name : String} :
    s.IsUnknown type name ↔ s.formatOf? type name = none := by
  unfold IsUnknown formatOf? MetacardType.descriptor?
  cases h : type.descriptors.find? fun d => d.name = name with
  | some d =>
    have hfound := List.find?_some h
    have hname : d.name = name := of_decide_eq_true hfound
    exact iff_of_false (fun hunknown => hunknown.1 d (List.mem_of_find?_eq_some h) hname) nofun
  | none =>
    have hdescribed : ∀ d ∈ type.descriptors, d.name ≠ name := fun d hd heq =>
      List.find?_eq_none.mp h d hd (decide_eq_true heq)
    rw [KeyMap.mem_keys_iff, Option.not_isSome_iff_eq_none]
    exact and_iff_right hdescribed

/-- A record without unknown attributes has a document. -/
theorem document_of_known (h : s.unknownOf m = []) :
    s.schema.document m = .ok (s.recordDocument m) := by
  have hformats : ∀ a ∈ m.attributes.values, (s.formatOf? m.type a.name).isSome := fun a ha =>
    Option.ne_none_iff_isSome.mp fun hnone =>
      List.filter_eq_nil_iff.mp h a ha (decide_eq_true (isUnknown_iff.mpr hnone))
  have hrun : (s.schema.addFields m).run Document.empty = (.ok (), s.recordDocument m) :=
    addFields_run hformats Document.empty
  unfold Schema.document
  rw [hrun]

/-- The first unknown attribute of a record is why it has no document. -/
theorem document_of_unknown {a : Attribute} (h : (s.unknownOf m).head? = some a) :
    s.schema.document m = .error (.unknownFormat a.name) := by
  rw [unknownOf, List.head?_filter, List.find?_eq_some_iff_append] at h
  obtain ⟨ha, known, rest, hsplit, hknown⟩ := h
  have hformats : ∀ b ∈ known, (s.formatOf? m.type b.name).isSome := fun b hb =>
    Option.ne_none_iff_isSome.mp fun hnone => by
      simpa [isUnknown_iff.mpr hnone] using hknown b hb
  have hrun := addFields_run_unknown hsplit hformats (isUnknown_iff.mp (of_decide_eq_true ha))
    Document.empty
  unfold Schema.document
  rw [show (s.schema.addFields m).run Document.empty = _ from hrun]

/-- Records without unknown attributes all have documents. -/
theorem mapM_document (h : s.unknownAttributes records = []) :
    records.mapM s.schema.document = .ok (records.map s.recordDocument) := by
  induction records with
  | nil => rfl
  | cons m records ih =>
    obtain ⟨hm, hrecords⟩ := List.append_eq_nil_iff.mp (List.flatMap_cons.symm.trans h)
    rw [List.mapM_cons, document_of_known hm, ih hrecords]
    rfl

/-- The first unknown attribute is why there are no documents. -/
theorem mapM_document_error {a : Attribute} (h : (s.unknownAttributes records).head? = some a) :
    records.mapM s.schema.document = .error (.unknownFormat a.name) := by
  induction records with
  | nil => cases h
  | cons m records ih =>
    rw [unknownAttributes, List.flatMap_cons, List.head?_append] at h
    rw [List.mapM_cons]
    cases hm : (s.unknownOf m).head? with
    | some b =>
      rw [hm] at h
      obtain rfl : b = a := Option.some.inj h
      rw [document_of_unknown hm]
      rfl
    | none =>
      -- the record has a document, and the attribute is one of the records after it
      rw [hm, Option.none_or] at h
      rw [document_of_known (List.head?_eq_none_iff.mp hm), ih h]
      rfl

/-- The order of the records is nothing to their unknown attributes. -/
theorem unknownAttributes_eq_nil_of_perm {other : List Metacard} (hperm : other.Perm records)
    (h : s.unknownAttributes records = []) : s.unknownAttributes other = [] :=
  List.flatMap_eq_nil_iff.mpr fun m hm =>
    List.flatMap_eq_nil_iff.mp h m (hperm.mem_iff.mp hm)

end SuffixSchema

namespace Service

open ServiceM

/-! ## The write -/

/-- The write for the documents of records. -/
inductive StoresBy (c : CommitConfig) (records : List Metacard) (force : Bool) :
    (List Document → Call) → Prop where
  /-- A forced commit is soft, and waited for. -/
  | committed (hforce : force = true) :
    StoresBy c records force fun docs => .storeAndCommit docs ⟨true, true, true⟩
  /-- One record of a prompt type is enough to bound the time of all. -/
  | bounded (hforce : force = false) {m : Metacard} (hm : m ∈ records)
    (hprompt : m.type.name ∈ c.promptTypes) :
    StoresBy c records force fun docs => .store docs (some c.promptWithin)
  /-- All others wait for the engine's own schedule. -/
  | scheduled (hforce : force = false)
    (hnone : ∀ m ∈ records, m.type.name ∉ c.promptTypes) :
    StoresBy c records force fun docs => .store docs none

/-- The visibility of records chooses their write. -/
theorem storesBy_visibility (c : CommitConfig) (records : List Metacard) (force : Bool) :
    StoresBy c records force fun docs => storeCall docs (.of c records force) := by
  unfold Visibility.of
  cases force with
  | true => exact .committed rfl
  | false =>
    rw [if_neg Bool.false_ne_true]
    by_cases hany : records.any fun m => c.isPrompt m.type.name
    · rw [if_pos hany]
      obtain ⟨m, hm, hprompt⟩ := List.any_eq_true.mp hany
      exact .bounded rfl hm (List.contains_iff_mem.mp hprompt)
    · rw [if_neg hany]
      exact .scheduled rfl fun m hm hprompt =>
        hany (List.any_eq_true.mpr ⟨m, hm, List.contains_iff_mem.mpr hprompt⟩)

/-- The order of the records is nothing to their visibility. -/
theorem visibility_of_perm {c : CommitConfig} {records other : List Metacard}
    (hperm : other.Perm records) (force : Bool) :
    Visibility.of c other force = Visibility.of c records force := by
  unfold Visibility.of
  rw [hperm.any_eq]

section Store

variable {svc : Service} {schema : SuffixSchema} {records : List Metacard}

/-- Without records nothing is done. -/
theorem store_nil (svc : Service) (force : Bool) (s : Session) :
    (svc.store [] force).Sends s [] (.ok []) :=
  sends_pure [] s

/-- With records, their documents are made first, and then written. -/
theorem store_of_ne_nil (hne : records ≠ []) (force : Bool) :
    svc.store records force = (do
      let docs ← ofFault (records.mapM svc.schema.document)
      write (storeCall docs (.of svc.config.commit records force))
      return docs) := by
  unfold store
  rw [if_neg fun h => hne (List.isEmpty_iff.mp h)]

/-- An unknown attribute keeps all records out. -/
theorem store_of_unknown (hschema : svc.schema = schema.schema) {a : Attribute}
    (h : (schema.unknownAttributes records).head? = some a) (force : Bool) (s : Session) :
    (svc.store records force).Sends s [] (.error (.metacardCreation (.unknownFormat a.name))) := by
  have hne : records ≠ [] := by
    rintro rfl
    cases h
  rw [store_of_ne_nil hne, hschema, SuffixSchema.mapM_document_error h]
  exact (sends_throw _ s).bind_error _

/-- Documents of known attributes are written with one call. -/
theorem store_of_known (svc : Service) (hschema : svc.schema = schema.schema) (hne : records ≠ [])
    (h : schema.unknownAttributes records = []) (force : Bool) (s : Session) :
    (svc.store records force).Sends s
      [storeCall (records.map schema.recordDocument) (.of svc.config.commit records force)]
      (if s.writesFail then .error (.backend Session.writeReason)
        else .ok (records.map schema.recordDocument)) := by
  rw [store_of_ne_nil hne, hschema, SuffixSchema.mapM_document h]
  refine (sends_pure _ s).bind_silent ?_
  have hwrite := write_sends
    (storeCall (records.map schema.recordDocument) (.of svc.config.commit records force)) s
  by_cases hfail : s.writesFail = true
  · rw [if_pos hfail] at hwrite ⊢
    exact hwrite.bind_error _
  · rw [if_neg hfail] at hwrite ⊢
    exact hwrite.bind_last (sends_pure _ _)

end Store

/-- How records are stored. -/
structure Storing (svc : Service) (schema : SuffixSchema) (records : List Metacard)
    (force : Bool) (s : Session) : Prop where
  /-- Without records nothing is sent. -/
  nothing : records = [] → (svc.store records force).Sends s [] (.ok [])
  /-- An unknown attribute keeps all records out; the first one is named. -/
  unknown : ∀ a, (schema.unknownAttributes records).head? = some a →
    (svc.store records force).Sends s [] (.error (.metacardCreation (.unknownFormat a.name)))
  /-- Records of known attributes have a document each. -/
  documents : schema.unknownAttributes records = [] → ∀ m ∈ records,
    schema.schema.document m = .ok (schema.recordDocument m)
  /-- One write sends them all in the order of their records. The choice of the write is that of
  any order. -/
  stored : records ≠ [] → schema.unknownAttributes records = [] →
    ∃ call, StoresBy svc.config.commit records force call ∧
      ∀ other : List Metacard, other.Perm records →
        (svc.store other force).Sends s [call (other.map schema.recordDocument)]
          (if s.writesFail then .error (.backend Session.writeReason)
            else .ok (other.map schema.recordDocument))

/-- **All or nothing.** Records are written with one call, which returns the documents it sent, or
nothing is sent at all. -/
theorem store_once (config : Config) (schema : SuffixSchema) (writer : FilterWriter)
    (records : List Metacard) (force : Bool) (s : Session) :
    Storing { config, schema := schema.schema, writer } schema records force s where
  nothing := by
    rintro rfl
    exact store_nil _ force s
  unknown a h := store_of_unknown rfl h force s
  documents h m hm := SuffixSchema.document_of_known (List.flatMap_eq_nil_iff.mp h m hm)
  stored hne h := by
    refine ⟨_, storesBy_visibility config.commit records force, fun other hperm => ?_⟩
    have hother : other ≠ [] := fun hnil => hne (List.nil_perm.mp (hnil ▸ hperm))
    have hsends := store_of_known { config, schema := schema.schema, writer } rfl hother
      (SuffixSchema.unknownAttributes_eq_nil_of_perm hperm h) force s
    rwa [visibility_of_perm hperm] at hsends

/-- A schema that knows no attribute of its own, in a service with a prompt type. -/
def noteService : Service where
  config := { commit := { promptTypes := ["note"] } }
  schema := SuffixSchema.schema {}

/-- One prompt record bounds the time of another one before it, and an unknown attribute keeps
both out. -/
example :
    let plain : Metacard := { type := ⟨"plain", []⟩ }
    (noteService.store [plain, SuffixSchema.noteRecord] false).Sends {}
        [.store [⟨[("metacard_type_name", [.str "plain"])]⟩,
          ⟨[("when_txt", [.str "tomorrow"]), ("metacard_type_name", [.str "note"])]⟩] (some 1000)]
        (.ok [⟨[("metacard_type_name", [.str "plain"])]⟩,
          ⟨[("when_txt", [.str "tomorrow"]), ("metacard_type_name", [.str "note"])]⟩]) ∧
      (noteService.store [SuffixSchema.noteRecord, plain.set ⟨"colour", []⟩] true).Sends {} []
        (.error (.metacardCreation (.unknownFormat "colour"))) :=
  ⟨rfl, rfl⟩

end Service

end CatalogSearch
