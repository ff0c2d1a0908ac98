import CatalogSearch.Hits
import CatalogSearch.Proofs.KeyMap
import CatalogSearch.Proofs.Outcomes
import CatalogSearch.Proofs.Schema.RoundTrip
import CatalogSearch.Schema.Resource

/-!
# Records and hits of documents

A document is a record if its type is found, whatever else it holds. The fields that are not
private become the attributes, the last field of a name over those before it, and no number that is
missing or malformed takes a hit away.

- `Schema.IsRecordOf`: the record of a document, told field by field; there is at most one.
- `Schema.metacard_eq_ok_iff`, `Schema.metacard_eq_error_iff`: what is read from a document.
- `Schema.IsHitOf`: the hit of a document, with the numbers that the engine reports.
- `Schema.metacards_eq_map_hits`: records and hits of documents come together.
- `Schema.Assembles`, `Schema.hits_assembles`: what becomes of a list of documents.
-/

namespace CatalogSearch

/-- A value that spells a number out: it is a number, or a text that is one but for blanks. -/
inductive Json.Spells : Json → Float → Prop where
  | int (i : Int) : Spells (.int i) (.ofInt i)
  | float (x : Float) : Spells (.float x) x
  | text {s : String} {x : Float} (h : Decimal.number? (Text.trim s) = some x) : Spells (.str s) x

theorem Json.asNumber?_eq_some_iff {v : Json} {x : Float} : v.asNumber? = some x ↔ v.Spells x := by
  constructor
  · intro h
    cases v with
    | int i => exact Option.some.inj h ▸ .int i
    | float y => exact Option.some.inj h ▸ .float y
    | str s => exact .text h
    | null | bool _ | arr _ | obj _ => cases h
  · intro h
    cases h with
    | int i => rfl
    | float x => rfl
    | text h => exact h

/-- Of the members of a list that pass a test, one is the last. -/
theorem exists_last {α : Type} {p : α → Prop} {l : List α} (h : ∃ x ∈ l, p x) :
    ∃ before x after, l = before ++ x :: after ∧ p x ∧ ∀ y ∈ after, ¬ p y := by
  induction l with
  | nil => simp at h
  | cons e l ih =>
    by_cases hl : ∃ x ∈ l, p x
    · obtain ⟨before, x, after, rfl, hx, hafter⟩ := ih hl
      exact ⟨e :: before, x, after, rfl, hx, hafter⟩
    · have he : p e := by
        obtain ⟨x, hx, hp⟩ := h
        rcases List.mem_cons.mp hx with rfl | hx
        · exact hp
        · exact absurd ⟨x, hx, hp⟩ hl
      exact ⟨[], e, l, rfl, he, fun y hy hp => hl ⟨y, hy, hp⟩⟩

namespace Schema

variable {schema : Schema} {doc : Document}

/-! ## The record of a document -/

/-- What a document says of a record. -/
structure IsRecordOf (schema : Schema) (doc : Document) (m : Metacard) : Prop where
  /-- Its type is that of the document. -/
  type : schema.typeOf doc = .ok m.type
  /-- Each attribute stands under its own name. -/
  keyed : m.attributes.KeyedBy Attribute.name
  /-- The names are those that the fields are shown as, but for private fields. -/
  names : ∀ name, name ∈ m.attributes.keys ↔
    ∃ f ∈ doc.fields, schema.isPrivate f.1 = false ∧ schema.shownName f.1 = name
  /-- An attribute has the values of the last field that is shown as it. -/
  values : ∀ before f after, doc.fields = before ++ f :: after → schema.isPrivate f.1 = false →
    (∀ g ∈ after, schema.isPrivate g.1 = false → schema.shownName g.1 ≠ schema.shownName f.1) →
      ∃ a, m.attribute? (schema.shownName f.1) = some a ∧ a.values = schema.shownValues f.1 f.2

theorem IsRecordOf.name_eq {m : Metacard} (h : schema.IsRecordOf doc m) {name : String}
    {a : Attribute} (ha : m.attribute? name = some a) : a.name = name :=
  (h.keyed (name, a) (KeyMap.mem_entries_iff.mpr ha)).symm

/-- A document says all there is to say of its record. -/
theorem IsRecordOf.unique {m m' : Metacard} (h : schema.IsRecordOf doc m)
    (h' : schema.IsRecordOf doc m') : m = m' := by
  have htype : m.type = m'.type := Except.ok.inj (h.type.symm.trans h'.type)
  have hattributes : m.attributes = m'.attributes := by
    refine KeyMap.ext_get? fun name => ?_
    by_cases hshown : ∃ f ∈ doc.fields, schema.isPrivate f.1 = false ∧ schema.shownName f.1 = name
    · -- both have the values of the last field that is shown under the name
      obtain ⟨before, f, after, hsplit, ⟨hpublic, rfl⟩, hafter⟩ := exists_last hshown
      have hlast : ∀ g ∈ after, schema.isPrivate g.1 = false →
          schema.shownName g.1 ≠ schema.shownName f.1 := fun g hg hgpublic hname =>
        hafter g hg ⟨hgpublic, hname⟩
      obtain ⟨a, ha, hvalues⟩ := h.values before f after hsplit hpublic hlast
      obtain ⟨a', ha', hvalues'⟩ := h'.values before f after hsplit hpublic hlast
      have hname : a.name = a'.name := (h.name_eq ha).trans (h'.name_eq ha').symm
      have hsame : a = a' := by
        cases a
        cases a'
        exact congr (congrArg Attribute.mk hname) (hvalues.trans hvalues'.symm)
      exact ha.trans (hsame ▸ ha'.symm)
    · have hnone : ∀ {m : Metacard}, schema.IsRecordOf doc m → m.attributes.get? name = none := by
        intro m hm
        rw [← Option.not_isSome_iff_eq_none, ← KeyMap.mem_keys_iff]
        exact fun hmem => hshown ((hm.names name).mp hmem)
      rw [hnone h, hnone h']
  cases m
  cases m'
  simp_all

/-- The attribute that a field is shown as. -/
def shownAttribute (schema : Schema) (f : String × List Json) : Attribute :=
  ⟨schema.shownName f.1, schema.shownValues f.1 f.2⟩

/-- The attributes that the fields of a document are shown as, by name. -/
def shownEntries (schema : Schema) (doc : Document) : List (String × Attribute) :=
  (doc.fields.filter fun f => !schema.isPrivate f.1).map fun f =>
    (schema.shownName f.1, schema.shownAttribute f)

/-- If its type is found, a document has a record, with the shown attributes. -/
theorem metacard_eq (schema : Schema) (doc : Document) :
    schema.metacard doc =
      (schema.typeOf doc).map fun type => ⟨type, .ofList (schema.shownEntries doc)⟩ := by
  show (schema.typeOf doc).bind _ = _
  cases schema.typeOf doc with
  | error fault => rfl
  | ok type =>
    have hset : ∀ fields : List (String × List Json),
        fields.foldl (fun m f => m.set (schema.shownAttribute f)) { type := type } =
          (⟨type, .ofList (fields.map fun f =>
            (schema.shownName f.1, schema.shownAttribute f))⟩ : Metacard) := by
      intro fields
      rw [← List.foldl_map, Metacard.foldl_set, List.map_map]
      rfl
    exact congrArg Except.ok (hset _)

theorem mem_keys_shownEntries {name : String} :
    name ∈ (KeyMap.ofList (schema.shownEntries doc)).keys ↔
      ∃ f ∈ doc.fields, schema.isPrivate f.1 = false ∧ schema.shownName f.1 = name := by
  rw [KeyMap.mem_keys_ofList]
  simp [shownEntries, and_assoc]

/-- The last field of a name gives the attribute its values. -/
theorem get?_shownEntries {before after : List (String × List Json)} {f : String × List Json}
    (hsplit : doc.fields = before ++ f :: after) (hpublic : schema.isPrivate f.1 = false)
    (hlast : ∀ g ∈ after, schema.isPrivate g.1 = false →
      schema.shownName g.1 ≠ schema.shownName f.1) :
    (KeyMap.ofList (schema.shownEntries doc)).get? (schema.shownName f.1) =
      some (schema.shownAttribute f) := by
  rw [shownEntries, hsplit, List.filter_append, List.filter_cons_of_pos (by simp [hpublic]),
    List.map_append, List.map_cons]
  refine KeyMap.get?_ofList_of_last (fun e he => ?_) _ _
  obtain ⟨g, hg, rfl⟩ := List.mem_map.mp he
  obtain ⟨hg, hgpublic⟩ := List.mem_filter.mp hg
  exact hlast g hg (by simpa using hgpublic)

theorem isRecordOf_shownEntries {type : MetacardType} (h : schema.typeOf doc = .ok type) :
    schema.IsRecordOf doc ⟨type, .ofList (schema.shownEntries doc)⟩ where
  type := h
  keyed e he := by
    obtain ⟨f, -, rfl⟩ := List.mem_map.mp (KeyMap.mem_of_mem_entries_ofList he)
    rfl
  names _ := mem_keys_shownEntries
  values _ _ _ hsplit hpublic hlast := ⟨_, get?_shownEntries hsplit hpublic hlast, rfl⟩

/-- What is read from a document is its record. -/
theorem metacard_eq_ok_iff {m : Metacard} :
    schema.metacard doc = .ok m ↔ schema.IsRecordOf doc m := by
  rw [metacard_eq]
  constructor
  · intro h
    cases htype : schema.typeOf doc with
    | error fault =>
      rw [htype] at h
      cases h
    | ok type =>
      rw [htype] at h
      exact Except.ok.inj h ▸ isRecordOf_shownEntries htype
  · intro h
    rw [h.type, h.unique (isRecordOf_shownEntries h.type)]
    rfl

/-- There is no record only if there is no type. -/
theorem metacard_eq_error_iff {fault : MetacardFault} :
    schema.metacard doc = .error fault ↔ schema.typeOf doc = .error fault := by
  rw [metacard_eq]
  cases schema.typeOf doc <;> simp [Except.map]

theorem exists_metacard_iff :
    (∃ m, schema.metacard doc = .ok m) ↔ ∃ type, schema.typeOf doc = .ok type := by
  rw [metacard_eq]
  cases schema.typeOf doc <;> simp [Except.map]

/-- Private fields, wherever they stand, are nothing to the attributes. -/
theorem metacard_congr {other : Document} (htype : schema.typeOf other = schema.typeOf doc)
    (hfields : other.fields.filter (fun f => !schema.isPrivate f.1) =
      doc.fields.filter fun f => !schema.isPrivate f.1) :
    schema.metacard other = schema.metacard doc := by
  rw [metacard_eq, metacard_eq, htype, shownEntries, hfields, ← shownEntries]

/-! ## The hit of a document -/

/-- What a document says of a hit. -/
structure IsHitOf (schema : Schema) (doc : Document) (h : Hit) : Prop where
  record : schema.IsRecordOf doc h.metacard
  /-- Its relevance is the number that the first value of the score spells out. -/
  relevance : ∀ x, h.relevance = some x ↔
    ∃ v, doc.first? scoreField = some v ∧ v.Spells x
  /-- Its distance is the number that the first value of the distance spells out, in meters for
  kilometers. -/
  meters : ∀ x, h.meters = some x ↔
    ∃ v kilometers, doc.first? distanceField = some v ∧ v.Spells kilometers ∧
      x = kilometers * 1000

theorem relevance?_eq_some_iff {x : Float} :
    doc.relevance? = some x ↔ ∃ v, doc.first? scoreField = some v ∧ v.Spells x := by
  simp only [Document.relevance?, Option.bind_eq_some_iff, Json.asNumber?_eq_some_iff]

theorem meters?_eq_some_iff {x : Float} :
    doc.meters? = some x ↔ ∃ v kilometers, doc.first? distanceField = some v ∧
      v.Spells kilometers ∧ x = kilometers * 1000 := by
  simp only [Document.meters?, Option.map_eq_some_iff, Option.bind_eq_some_iff,
    Json.asNumber?_eq_some_iff]
  constructor
  · rintro ⟨kilometers, ⟨v, hv, hspells⟩, rfl⟩
    exact ⟨v, kilometers, hv, hspells, rfl⟩
  · rintro ⟨v, kilometers, hv, hspells, rfl⟩
    exact ⟨kilometers, ⟨v, hv, hspells⟩, rfl⟩

theorem hit_eq_ok_iff {h : Hit} : schema.hit doc = .ok h ↔ schema.IsHitOf doc h := by
  have hparts : schema.hit doc = .ok h ↔ schema.metacard doc = .ok h.metacard ∧
      doc.relevance? = h.relevance ∧ doc.meters? = h.meters := by
    unfold hit
    cases h
    cases schema.metacard doc <;> simp [Except.map]
  rw [hparts, metacard_eq_ok_iff]
  constructor
  · rintro ⟨hrecord, hrelevance, hmeters⟩
    refine ⟨hrecord, fun x => ?_, fun x => ?_⟩
    · rw [← hrelevance, relevance?_eq_some_iff]
    · rw [← hmeters, meters?_eq_some_iff]
  · rintro ⟨hrecord, hrelevance, hmeters⟩
    refine ⟨hrecord, Option.ext fun x => ?_, Option.ext fun x => ?_⟩
    · rw [relevance?_eq_some_iff, hrelevance]
    · rw [meters?_eq_some_iff, hmeters]

theorem hit_eq_error_iff {fault : MetacardFault} :
    schema.hit doc = .error fault ↔ schema.typeOf doc = .error fault := by
  rw [← metacard_eq_error_iff]
  unfold hit
  cases schema.metacard doc <;> simp [Except.map]

theorem exists_hit_iff :
    (∃ h, schema.hit doc = .ok h) ↔ ∃ type, schema.typeOf doc = .ok type := by
  rw [← exists_metacard_iff]
  unfold hit
  cases schema.metacard doc <;> simp [Except.map]

/-- Without a first value that spells a number out, a hit has no relevance. -/
theorem IsHitOf.relevance_eq_none {h : Hit} (hit : schema.IsHitOf doc h)
    (hnone : ∀ v, doc.first? scoreField = some v → ∀ x, ¬ v.Spells x) : h.relevance = none := by
  refine Option.eq_none_iff_forall_ne_some.mpr fun x hx => ?_
  obtain ⟨v, hv, hspells⟩ := (hit.relevance x).mp hx
  exact hnone v hv x hspells

/-- Nor has it a distance. -/
theorem IsHitOf.meters_eq_none {h : Hit} (hit : schema.IsHitOf doc h)
    (hnone : ∀ v, doc.first? distanceField = some v → ∀ x, ¬ v.Spells x) : h.meters = none := by
  refine Option.eq_none_iff_forall_ne_some.mpr fun x hx => ?_
  obtain ⟨v, kilometers, hv, hspells, -⟩ := (hit.meters x).mp hx
  exact hnone v hv kilometers hspells

/-! ## Several documents -/

/-- The records of the hits are the records of the documents, and there are none for the same
reason. -/
theorem metacards_eq_map_hits (schema : Schema) (docs : List Document) :
    schema.metacards docs = (schema.hits docs).map (List.map Hit.metacard) := by
  induction docs with
  | nil => rfl
  | cons doc docs ih =>
    have hhit : schema.hit doc =
        (schema.metacard doc).map fun m => ⟨m, doc.relevance?, doc.meters?⟩ := rfl
    unfold metacards hits at ih ⊢
    cases hdoc : schema.metacard doc with
    | error fault =>
      rw [hdoc] at hhit
      rw [mapM_cons_of_error hdoc, mapM_cons_of_error hhit]
      rfl
    | ok m =>
      rw [hdoc] at hhit
      rw [mapM_cons_of_ok hdoc, mapM_cons_of_ok hhit, ih]
      cases docs.mapM schema.hit <;> rfl

/-- What becomes of documents. -/
structure Assembles (schema : Schema) (docs : List Document) : Prop where
  /-- Each document is read as its record. -/
  record : ∀ doc ∈ docs, ∀ m, schema.metacard doc = .ok m ↔ schema.IsRecordOf doc m
  /-- It has one iff its type is found. -/
  typed : ∀ doc ∈ docs,
    (∃ m, schema.metacard doc = .ok m) ↔ ∃ type, schema.typeOf doc = .ok type
  /-- Private fields add nothing to it. -/
  exposed : ∀ doc ∈ docs, ∀ other : Document, schema.typeOf other = schema.typeOf doc →
    other.fields.filter (fun f => !schema.isPrivate f.1) =
      doc.fields.filter (fun f => !schema.isPrivate f.1) →
    schema.metacard other = schema.metacard doc
  /-- The records of all documents are there iff each has one. -/
  records : ∀ ms, schema.metacards docs = .ok ms ↔ List.Forall₂ schema.IsRecordOf docs ms
  /-- So are the hits, one of each document, in order. -/
  hits : ∀ hs, schema.hits docs = .ok hs ↔ List.Forall₂ schema.IsHitOf docs hs
  /-- The records of the hits are the records, and there are hits iff there are records. -/
  agree : schema.metacards docs = (schema.hits docs).map (List.map Hit.metacard)
  /-- Only a type that is not found fails them. -/
  succeeds : (∃ hs, schema.hits docs = .ok hs) ↔
    ∀ doc ∈ docs, ∃ type, schema.typeOf doc = .ok type
  /-- The first such document fails all. -/
  fails : ∀ fault, schema.hits docs = .error fault ↔
    ∃ before doc after, docs = before ++ doc :: after ∧
      (∀ other ∈ before, ∃ type, schema.typeOf other = .ok type) ∧
      schema.typeOf doc = .error fault
  /-- Without a first value that spells a number out, a hit has no relevance, or no distance. -/
  unscored : ∀ doc ∈ docs, ∀ h, schema.IsHitOf doc h →
    ((∀ v, doc.first? scoreField = some v → ∀ x, ¬ v.Spells x) → h.relevance = none) ∧
      ((∀ v, doc.first? distanceField = some v → ∀ x, ¬ v.Spells x) → h.meters = none)

theorem metacards_eq_ok_iff {docs : List Document} {ms : List Metacard} :
    schema.metacards docs = .ok ms ↔ List.Forall₂ schema.IsRecordOf docs ms := by
  unfold metacards
  rw [mapM_eq_ok_iff]
  simp only [metacard_eq_ok_iff]

theorem hits_eq_ok_iff {docs : List Document} {hs : List Hit} :
    schema.hits docs = .ok hs ↔ List.Forall₂ schema.IsHitOf docs hs := by
  unfold hits
  rw [mapM_eq_ok_iff]
  simp only [hit_eq_ok_iff]

theorem hits_eq_error_iff {docs : List Document} {fault : MetacardFault} :
    schema.hits docs = .error fault ↔ ∃ before doc after, docs = before ++ doc :: after ∧
      (∀ other ∈ before, ∃ type, schema.typeOf other = .ok type) ∧
      schema.typeOf doc = .error fault := by
  unfold hits
  rw [mapM_eq_error_iff]
  simp only [exists_hit_iff, hit_eq_error_iff]

/-- There are hits unless some type is not found. -/
theorem exists_hits_iff {docs : List Document} :
    (∃ hs, schema.hits docs = .ok hs) ↔ ∀ doc ∈ docs, ∃ type, schema.typeOf doc = .ok type := by
  constructor
  · rintro ⟨hs, h⟩
    have hall := hits_eq_ok_iff.mp h
    clear h
    induction hall with
    | nil => simp
    | cons hhit _ ih => exact List.forall_mem_cons.mpr ⟨⟨_, hhit.record.type⟩, ih⟩
  · intro htypes
    cases h : schema.hits docs with
    | ok hs => exact ⟨hs, rfl⟩
    | error fault =>
      obtain ⟨before, doc, after, rfl, -, hdoc⟩ := hits_eq_error_iff.mp h
      obtain ⟨type, htype⟩ := htypes doc (by simp)
      cases hdoc.symm.trans htype

/-- **Assembled results.** Documents become records and hits all together: in order and one of each
document, by its fields that are not private, or none at all because of the first one whose type is
not found. -/
theorem hits_assembles (schema : Schema) (docs : List Document) : schema.Assembles docs where
  record _ _ _ := metacard_eq_ok_iff
  typed _ _ := exists_metacard_iff
  exposed _ _ _ := metacard_congr
  records _ := metacards_eq_ok_iff
  hits _ := hits_eq_ok_iff
  agree := metacards_eq_map_hits schema docs
  succeeds := exists_hits_iff
  fails _ := hits_eq_error_iff
  unscored _ _ _ hhit := ⟨hhit.relevance_eq_none, hhit.meters_eq_none⟩

/-- The last field of a name gives the values, and a score that spells no number is left out. -/
example :
    let doc := ((Resource.document "id-7" "first").add (Resource.title ++ Suffix.of .xml)
      (.str "last")).add scoreField (.str "high")
    (Resource.schema.schema.hit doc).toOption.map
        (fun h => ((h.metacard.attribute? Resource.title).map Attribute.values, h.relevance)) =
      some (some [.str "last"], none) := by
  rfl

end Schema

end CatalogSearch
