import CatalogSearch.Proofs.Forms.Values

/-!
# Forms of structures

A structure is given as an object of its fields or as a list of them. It is read field after field,
and so are its forms described: each field takes what the record holds for it and leaves the rest.

- `Slot`: what may stand for a field of some value; `Gap`: what must not stand for a field of any.
- `Offers`: a record holds for every slot what may stand for it, and has nothing left over.
- `Broken`: a record fails one of the fields, or has something left over.
- `ReadsSlots`, `RefusesGaps`: what a reader makes of such records, put together field by field.
- `Field`, `HasForms.ofFields`: the forms of a structure from its fields.
-/

namespace CatalogSearch

namespace Record

/-- The JSON value of a record. -/
def toJson : Record → Json
  | named members => .obj members
  | listed items => .arr items

/-- The record is an object. -/
def IsObject : Record → Prop
  | named _ => True
  | listed _ => False

/-- What a record holds for a field: the member of its name, or the next item. -/
def held (name : String) (r : Record) : Option Json := (r.next? name).1

/-- What a field leaves of a record: all of an object, and what comes after it in a list. -/
def rest : Record → Record
  | named members => named members
  | listed items => listed items.tail

/-- A field takes what is held for it and leaves the rest. -/
theorem next?_eq (name : String) (r : Record) : r.next? name = (r.held name, r.rest) := by
  cases r with
  | named members => rfl
  | listed items => cases items <;> rfl

/-- A structure is read from either kind of record, if nothing is left over. -/
theorem record?_toJson {α : Type} (fields : RecordReader α) (r : Record) :
    record? fields r.toJson = match fields.run r with
      | some (x, rest) => if rest.finished then some x else none
      | none => none := by
  cases r <;> rfl

end Record

/-! ## What stands for a field -/

/-- A field of some value. -/
structure Slot where
  name : String
  /-- How the value of the field is written. -/
  written : Json
  /-- What may stand for the value of the field. -/
  IsForm : Json → Prop
  /-- The record may end before the field, or leave it out. -/
  MayLack : Record → Prop

/-- The record holds for the slot what may stand for it. -/
def Slot.Fits (slot : Slot) (r : Record) : Prop :=
  match r.held slot.name with
  | some j => slot.IsForm j
  | none => slot.MayLack r

/-- The record holds for every slot what may stand for it. An object may hold further members, but
a list nothing more. -/
inductive Offers : List Slot → Record → Prop where
  | nil {r : Record} (h : r.finished = true) : Offers [] r
  | cons {slot : Slot} {slots : List Slot} {r : Record} (hfits : slot.Fits r)
    (hrest : Offers slots r.rest) : Offers (slot :: slots) r

/-- A field of any value. -/
structure Gap where
  name : String
  /-- What must not stand for the field. -/
  IsFlawed : Json → Prop
  /-- The record must not end before the field, or leave it out. -/
  MustHold : Record → Prop

/-- The record holds for the field what must not stand for it, or nothing where something must. -/
def Gap.Fails (gap : Gap) (r : Record) : Prop :=
  match r.held gap.name with
  | some j => gap.IsFlawed j
  | none => gap.MustHold r

/-- The record fails one of the fields, or it is a list with something left over. -/
inductive Broken : List Gap → Record → Prop where
  | here {gap : Gap} {gaps : List Gap} {r : Record} (h : gap.Fails r) : Broken (gap :: gaps) r
  | later {gap : Gap} {gaps : List Gap} {r : Record} (h : Broken gaps r.rest) :
    Broken (gap :: gaps) r
  | surplus {item : Json} {items : List Json} : Broken [] (.listed (item :: items))

/-- An object that holds for each slot what may stand for it. -/
theorem offers_named {slots : List Slot} {members : List (String × Json)}
    (h : ∀ slot ∈ slots, slot.Fits (.named members)) : Offers slots (.named members) := by
  induction slots with
  | nil => exact .nil rfl
  | cons slot slots ih =>
    obtain ⟨hfits, hslots⟩ := List.forall_mem_cons.mp h
    exact .cons hfits (ih hslots)

theorem member?_eq_lookup (name : String) (members : List (String × Json)) :
    Json.member? name members = KeyMap.lookup name members := by
  induction members with
  | nil => rfl
  | cons e members ih =>
    unfold Json.member? at ih ⊢
    rw [List.find?_cons, KeyMap.lookup]
    by_cases h : e.1 = name
    · rw [decide_eq_true h, if_pos h]
      rfl
    · rw [decide_eq_false h, if_neg h]
      exact ih

/-- An object holds its fields as they were written. -/
theorem held_object {fields : List (String × Json)} {name : String} {j : Json}
    (hnames : (fields.map (·.1)).Nodup) (hmem : (name, j) ∈ fields) :
    (Record.named (KeyMap.ofList fields).entries).held name = some j := by
  show Json.member? name _ = _
  rw [member?_eq_lookup]
  show (KeyMap.ofList fields).get? name = _
  rw [KeyMap.get?_ofList]
  -- of two fields with one name the last one would count, but there are no two
  refine KeyMap.lookup_of_mem ?_ (List.mem_reverse.mpr hmem)
  rw [List.map_reverse]
  exact (List.reverse_perm _).nodup_iff.mpr hnames

/-- An object of written fields holds for each slot what is written for it. -/
theorem offers_written {slots : List Slot} (hnames : (slots.map (·.name)).Nodup)
    (hwritten : ∀ slot ∈ slots, slot.IsForm slot.written) :
    Offers slots
      (.named (KeyMap.ofList (slots.map fun slot => (slot.name, slot.written))).entries) := by
  refine offers_named fun slot hslot => ?_
  unfold Slot.Fits
  rw [held_object (by rwa [List.map_map]) (List.mem_map.mpr ⟨slot, hslot, rfl⟩)]
  exact hwritten slot hslot

/-- So does a list of them. -/
theorem offers_listed {slots : List Slot} (hwritten : ∀ slot ∈ slots, slot.IsForm slot.written) :
    Offers slots (.listed (slots.map (·.written))) := by
  induction slots with
  | nil => exact .nil rfl
  | cons slot slots ih =>
    obtain ⟨hslot, hslots⟩ := List.forall_mem_cons.mp hwritten
    exact .cons hslot (ih hslots)

/-! ## Reading field after field -/

section Readers

variable {α β : Type}

/-- The reader of a field reads what may stand for the slot as `y`. -/
def ReadsSlot (reader : RecordReader β) (slot : Slot) (y : β) : Prop :=
  ∀ r, slot.Fits r → reader.run r = some (y, r.rest)

/-- The reader of a field takes what is held for it, and refuses what must not stand there. -/
structure RefusesGap (reader : RecordReader β) (gap : Gap) : Prop where
  fails : ∀ r, gap.Fails r → reader.run r = none
  leaves : ∀ {r y r'}, reader.run r = some (y, r') → r' = r.rest

/-- The reader reads what may stand for the slots as `x`, to the end. -/
def ReadsSlots (reader : RecordReader α) (slots : List Slot) (x : α) : Prop :=
  ∀ r, Offers slots r → ∃ after, reader.run r = some (x, after) ∧ after.finished = true

/-- The reader does not come to the end of a record that fails one of the fields. -/
def RefusesGaps (reader : RecordReader α) (gaps : List Gap) : Prop :=
  ∀ r, Broken gaps r → ∀ x after, reader.run r = some (x, after) → after.finished = false

theorem ReadsSlots.nil {x : α} : ReadsSlots (pure x) [] x := by
  intro r h
  cases h with
  | nil hfinished => exact ⟨r, rfl, hfinished⟩

/-- The slot of the next field comes before those of the others. -/
theorem ReadsSlots.cons {first : RecordReader β} {next : β → RecordReader α} {slot : Slot}
    {slots : List Slot} {y : β} {x : α} (h : ReadsSlot first slot y)
    (h' : ReadsSlots (next y) slots x) : ReadsSlots (first >>= next) (slot :: slots) x := by
  intro r hoffers
  cases hoffers with
  | cons hfits hrest =>
    obtain ⟨after, hafter, hfinished⟩ := h' r.rest hrest
    refine ⟨after, ?_, hfinished⟩
    rw [StateT.run_bind, h r hfits]
    exact hafter

theorem RefusesGaps.nil {x : α} : RefusesGaps (pure x) [] := by
  intro r hbroken y after hrun
  cases hbroken with
  | surplus =>
    cases hrun
    rfl

/-- A record that fails the next field is refused there, and any other record goes on. -/
theorem RefusesGaps.cons {first : RecordReader β} {next : β → RecordReader α} {gap : Gap}
    {gaps : List Gap} (h : RefusesGap first gap) (h' : ∀ y, RefusesGaps (next y) gaps) :
    RefusesGaps (first >>= next) (gap :: gaps) := by
  intro r hbroken x after hrun
  rw [StateT.run_bind] at hrun
  cases hfirst : first.run r with
  | none =>
    rw [hfirst] at hrun
    cases hrun
  | some p =>
    obtain ⟨y, r'⟩ := p
    rw [hfirst] at hrun
    -- the first field was read, so what fails is behind it
    cases hbroken with
    | here hfails =>
      rw [h.fails r hfails] at hfirst
      cases hfirst
    | later hlater =>
      rw [h.leaves hfirst] at hrun
      exact h' y r.rest hlater x after hrun

/-- A record that offers the slots is a form of the value. -/
theorem ReadsSlots.record? {reader : RecordReader α} {slots : List Slot} {x : α} {r : Record}
    (h : ReadsSlots reader slots x) (hoffers : Offers slots r) :
    CatalogSearch.record? reader r.toJson = some x := by
  obtain ⟨after, hrun, hfinished⟩ := h r hoffers
  rw [Record.record?_toJson, hrun]
  exact if_pos hfinished

/-- A broken record is a form of no value. -/
theorem RefusesGaps.record? {reader : RecordReader α} {gaps : List Gap} {r : Record}
    (h : RefusesGaps reader gaps) (hbroken : Broken gaps r) :
    CatalogSearch.record? reader r.toJson = none := by
  rw [Record.record?_toJson]
  cases hrun : reader.run r with
  | none => rfl
  | some p => exact if_neg (Bool.eq_false_iff.mp (h r hbroken p.1 p.2 hrun))

end Readers

/-! ## The three kinds of field -/

section Kinds

variable {α : Type} [Coded α]

/-- The reader of a field reads what is held for it, and goes by `lacking` without it. -/
def Takes (reader : RecordReader α) (name : String) (lacking : Record → Option α) : Prop :=
  ∀ r, reader.run r = ((match r.held name with
    | some j => ofJson? j
    | none => lacking r).map fun x => (x, r.rest))

/-- A field is read in all its forms, and without any where it may be lacking. -/
theorem Takes.reads {reader : RecordReader α} (slot : Slot) {lacking : Record → Option α} {y : α}
    (h : Takes reader slot.name lacking) (hform : ∀ j, slot.IsForm j → ofJson? j = some y)
    (hlack : ∀ r, slot.MayLack r → lacking r = some y) : ReadsSlot reader slot y := by
  intro r hfits
  unfold Slot.Fits at hfits
  rw [h r]
  cases hheld : r.held slot.name with
  | some j =>
    rw [hheld] at hfits
    dsimp only
    rw [hform j hfits]
    rfl
  | none =>
    rw [hheld] at hfits
    dsimp only
    rw [hlack r hfits]
    rfl

/-- A field is refused if it is flawed, or lacking where it must be held. -/
theorem Takes.refuses {reader : RecordReader α} (gap : Gap) {lacking : Record → Option α}
    (h : Takes reader gap.name lacking)
    (hflawed : ∀ j, gap.IsFlawed j → (ofJson? j : Option α) = none)
    (hhold : ∀ r, gap.MustHold r → lacking r = none) : RefusesGap reader gap where
  fails r hfails := by
    unfold Gap.Fails at hfails
    rw [h r]
    cases hheld : r.held gap.name with
    | some j =>
      rw [hheld] at hfails
      dsimp only
      rw [hflawed j hfails]
      rfl
    | none =>
      rw [hheld] at hfails
      dsimp only
      rw [hhold r hfails]
      rfl
  leaves {r y r'} hrun := by
    rw [h r] at hrun
    obtain ⟨x, -, hx⟩ := Option.map_eq_some_iff.mp hrun
    exact (Prod.mk.inj hx).2.symm

theorem takes_required (name : String) :
    Takes (required name : RecordReader α) name fun _ => none := by
  intro r
  unfold required StateT.run
  dsimp only
  rw [Record.next?_eq]
  cases r.held name <;> rfl

theorem takes_defaulted (name : String) (otherwise : α) :
    Takes (defaulted name otherwise) name fun _ => some otherwise := by
  intro r
  unfold defaulted StateT.run
  dsimp only
  rw [Record.next?_eq]
  cases r.held name <;> rfl

/-- Only an object may leave out an optional field. -/
theorem takes_optional (name : String) :
    Takes (optional name : RecordReader (Option α)) name fun
      | .named _ => some none
      | .listed _ => none := by
  intro r
  unfold optional StateT.run
  dsimp only
  rw [Record.next?_eq]
  cases r with
  | named members => cases (Record.named members).held name <;> rfl
  | listed items => cases (Record.listed items).held name <;> rfl

variable [HasForms α] {name : String}

/-- A field that must be there. -/
def Slot.required (name : String) (x : α) : Slot where
  name
  written := CatalogSearch.toJson x
  IsForm := HasForms.IsForm x
  MayLack _ := False

/-- A field that an object may leave out for nothing. -/
def Slot.optional [RefusesNull α] (name : String) (x : Option α) : Slot where
  name
  written := CatalogSearch.toJson x
  IsForm := HasForms.IsForm x
  MayLack r := r.IsObject ∧ x = none

/-- A field that may be left out for a value of its own. -/
def Slot.defaulted (name : String) (otherwise x : α) : Slot where
  name
  written := CatalogSearch.toJson x
  IsForm := HasForms.IsForm x
  MayLack _ := x = otherwise

/-- A field that must be there. -/
def Gap.required (name : String) (α : Type) [Coded α] [HasForms α] : Gap where
  name
  IsFlawed := HasForms.IsFlawed α
  MustHold _ := True

/-- A field that an object may leave out for nothing. -/
def Gap.optional (name : String) (α : Type) [Coded α] [HasForms α] [RefusesNull α] : Gap where
  name
  IsFlawed := HasForms.IsFlawed (Option α)
  MustHold r := ¬ r.IsObject

/-- A field that may be left out, but must not be `null`. -/
def Gap.defaulted (name : String) (α : Type) [Coded α] [HasForms α] : Gap where
  name
  IsFlawed j := j = .null ∨ HasForms.IsFlawed α j
  MustHold _ := False

theorem ReadsSlot.required {y : α} :
    ReadsSlot (CatalogSearch.required name) (.required name y) y :=
  Takes.reads (.required name y) (takes_required name) (fun _ => ofJson?_of_isForm)
    fun _ => False.elim

theorem ReadsSlot.optional [RefusesNull α] {y : Option α} :
    ReadsSlot (CatalogSearch.optional name) (.optional name y) y := by
  refine Takes.reads (.optional name y) (takes_optional name)
    (fun _ => ofJson?_of_isForm) ?_
  rintro r ⟨hobject, rfl⟩
  cases r with
  | named members => rfl
  | listed items => exact hobject.elim

theorem ReadsSlot.defaulted {otherwise y : α} :
    ReadsSlot (CatalogSearch.defaulted name otherwise) (.defaulted name otherwise y) y :=
  Takes.reads (.defaulted name otherwise y) (takes_defaulted name otherwise)
    (fun _ => ofJson?_of_isForm) fun _ h => congrArg some h.symm

theorem RefusesGap.required :
    RefusesGap (CatalogSearch.required name : RecordReader α) (.required name α) :=
  Takes.refuses (.required name α) (takes_required name)
    (fun _ => HasForms.ofJson?_of_isFlawed) fun _ _ => rfl

theorem RefusesGap.optional [RefusesNull α] :
    RefusesGap (CatalogSearch.optional name : RecordReader (Option α)) (.optional name α) := by
  refine Takes.refuses (.optional name α) (takes_optional name)
    (fun _ => HasForms.ofJson?_of_isFlawed) fun r hlist => ?_
  cases r with
  | named members => exact absurd trivial hlist
  | listed items => rfl

theorem RefusesGap.defaulted [RefusesNull α] {otherwise : α} :
    RefusesGap (CatalogSearch.defaulted name otherwise) (.defaulted name α) := by
  refine Takes.refuses (.defaulted name α) (takes_defaulted name otherwise) ?_
    fun _ => False.elim
  rintro j (rfl | hflawed)
  · exact RefusesNull.ofJson?_null
  · exact HasForms.ofJson?_of_isFlawed hflawed

end Kinds

/-! ## Structures -/

/-- A field of a structure. -/
structure Field (α : Type) where
  /-- The field without its value. -/
  gap : Gap
  /-- The field of a value. -/
  slot : α → Slot
  slot_name : ∀ x, (slot x).name = gap.name
  isForm_written : ∀ x, (slot x).IsForm (slot x).written

namespace Field

variable {α β : Type} [Coded β] [HasForms β]

/-- A field that must be there. -/
def required (name : String) (get : α → β) : Field α where
  gap := .required name β
  slot x := .required name (get x)
  slot_name _ := rfl
  isForm_written x := isForm_toJson (get x)

/-- A field that an object may leave out for nothing. -/
def optional [RefusesNull β] (name : String) (get : α → Option β) : Field α where
  gap := .optional name β
  slot x := .optional name (get x)
  slot_name _ := rfl
  isForm_written x := isForm_toJson (get x)

/-- A field that may be left out for a value of its own. -/
def defaulted (name : String) (otherwise : β) (get : α → β) : Field α where
  gap := .defaulted name β
  slot x := .defaulted name otherwise (get x)
  slot_name _ := rfl
  isForm_written x := isForm_toJson (get x)

/-- Every field is given as it is written. -/
theorem isForm_slots (fields : List (Field α)) (x : α) :
    ∀ slot ∈ fields.map (·.slot x), slot.IsForm slot.written := by
  intro slot hslot
  obtain ⟨field, -, rfl⟩ := List.mem_map.mp hslot
  exact field.isForm_written x

end Field

/-- The forms of a structure, by its fields and its reader. -/
@[reducible]
def HasForms.ofFields {α : Type} [Coded α] (fields : List (Field α)) (reader : RecordReader α)
    (hread : ∀ j, ofJson? j = record? reader j)
    (hwritten : ∀ x : α,
      toJson x = object (fields.map fun f => ((f.slot x).name, (f.slot x).written)))
    (hnames : (fields.map (·.gap.name)).Nodup)
    (hreads : ∀ x, ReadsSlots reader (fields.map (·.slot x)) x)
    (hrefuses : RefusesGaps reader (fields.map (·.gap))) : HasForms α where
  IsForm x j := ∃ r : Record, j = r.toJson ∧ Offers (fields.map (·.slot x)) r
  IsFlawed j := j = .null ∨ ∃ r : Record, j = r.toJson ∧ Broken (fields.map (·.gap)) r
  isForm_toJson x := by
    have hsame : (fields.map (·.slot x)).map (·.name) = fields.map (·.gap.name) := by
      rw [List.map_map]
      exact List.map_congr_left fun field _ => field.slot_name x
    -- a structure is written as an object
    refine ⟨.named _, ?_, offers_written (hsame ▸ hnames) (Field.isForm_slots fields x)⟩
    rw [hwritten, List.map_map]
    rfl
  ofJson?_of_isForm := by
    rintro x j ⟨r, rfl, hoffers⟩
    rw [hread]
    exact (hreads x).record? hoffers
  ofJson?_of_isFlawed := by
    rintro j (rfl | ⟨r, rfl, hbroken⟩)
    · exact hread .null
    · rw [hread]
      exact hrefuses.record? hbroken

end CatalogSearch
