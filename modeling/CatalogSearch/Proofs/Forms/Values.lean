import CatalogSearch.Json.Coded
import CatalogSearch.Proofs.KeyMap
import Mathlib.Data.List.Forall2

/-!
# Forms of values

A value is written in one way, but may be given in several, and some ways to give one are flawed. A
type is described by these ways, and the descriptions of compound types are made of those of their
parts. So what holds at one level holds at all of them.

- `HasForms`: the forms of the values of a type and its flawed ones, with what reading makes of
  them.
- `RefusesNull`: a type that has no value beside `null`.
- The instances for plain values, lists, options, pairs and maps.
-/

namespace CatalogSearch

/-- The ways to give a value of a type. -/
class HasForms (α : Type) [Coded α] where
  /-- The value may be given in this form. -/
  IsForm : α → Json → Prop
  /-- No value is given: somewhere a field is missing that must be there, or a value is `null` that
  must not be. -/
  IsFlawed : Json → Prop
  isForm_toJson : ∀ x, IsForm x (toJson x)
  ofJson?_of_isForm : ∀ {x j}, IsForm x j → ofJson? j = some x
  ofJson?_of_isFlawed : ∀ {j}, IsFlawed j → (ofJson? j : Option α) = none

export HasForms (IsForm isForm_toJson ofJson?_of_isForm)

/-- A type that has no value beside `null`. -/
class RefusesNull (α : Type) [Coded α] : Prop where
  ofJson?_null : (ofJson? .null : Option α) = none

/-! ## Plain values -/

/-- The forms of a type whose values are given as they are written. -/
@[reducible]
def HasForms.ofPlain {α : Type} [Coded α] [RefusesNull α]
    (hread : ∀ x : α, ofJson? (toJson x) = some x) : HasForms α where
  IsForm x j := j = toJson x
  IsFlawed j := j = .null
  isForm_toJson _ := rfl
  ofJson?_of_isForm := by
    rintro x j rfl
    exact hread x
  ofJson?_of_isFlawed := by
    rintro j rfl
    exact RefusesNull.ofJson?_null

instance : RefusesNull String := ⟨rfl⟩
instance : RefusesNull Bool := ⟨rfl⟩
instance : RefusesNull Int64 := ⟨rfl⟩
instance : RefusesNull UInt64 := ⟨rfl⟩
instance : RefusesNull UInt32 := ⟨rfl⟩

instance : HasForms String := .ofPlain fun _ => rfl
instance : HasForms Bool := .ofPlain fun _ => rfl

instance : HasForms Int64 := .ofPlain fun w => by
  show (some w.toInt).bind Width.toInt64? = some w
  rw [Option.bind_some, Width.toInt64?_toInt]

instance : HasForms UInt64 := .ofPlain fun w => by
  show (some (w.toNat : Int)).bind Width.toUInt64? = some w
  rw [Option.bind_some, Width.toUInt64?_toNat]

instance : HasForms UInt32 := .ofPlain fun w => by
  show (some (w.toNat : Int)).bind Width.toUInt32? = some w
  rw [Option.bind_some, Width.toUInt32?_toNat]

/-- A free value is what it is, `null` among them. -/
instance : HasForms Json where
  IsForm x j := j = x
  IsFlawed _ := False
  isForm_toJson _ := rfl
  ofJson?_of_isForm := congrArg some
  ofJson?_of_isFlawed := False.elim

/-! ## Lists -/

/-- Items that can all be read are read one by one. -/
theorem readAll?_of_forall₂ {α β : Type} {read : β → Option α} {xs : List α} {items : List β}
    (h : List.Forall₂ (fun x item => read item = some x) xs items) :
    readAll? read items = some xs := by
  induction h with
  | nil => rfl
  | cons hitem _ ih =>
    unfold readAll?
    rw [hitem, ih]
    rfl

/-- One item that cannot be read is enough. -/
theorem readAll?_of_mem {α β : Type} {read : β → Option α} {items : List β} {item : β}
    (hmem : item ∈ items) (h : read item = none) : readAll? read items = none := by
  induction items with
  | nil => cases hmem
  | cons first items ih =>
    unfold readAll?
    rcases List.mem_cons.mp hmem with rfl | hmem
    · rw [h]
    · rw [ih hmem]
      cases read first <;> rfl

/-- Something other than `null` is read as such. -/
theorem ofJson?_option {α : Type} [Coded α] {j : Json} (h : j ≠ .null) :
    (ofJson? j : Option (Option α)) = (ofJson? j).map some := by
  cases j with
  | null => exact absurd rfl h
  | _ => rfl

section Compound

variable {α β : Type} [Coded α] [HasForms α] [Coded β] [HasForms β]

instance : RefusesNull (List α) := ⟨rfl⟩

/-- A list is given item by item. -/
instance : HasForms (List α) where
  IsForm xs j := ∃ items, j = .arr items ∧ List.Forall₂ IsForm xs items
  IsFlawed j := j = .null ∨ ∃ items, j = .arr items ∧ ∃ item ∈ items, HasForms.IsFlawed α item
  isForm_toJson xs :=
    ⟨xs.map toJson, rfl, List.forall₂_map_right_iff.mpr
      (List.forall₂_same.mpr fun x _ => isForm_toJson x)⟩
  ofJson?_of_isForm := by
    rintro xs j ⟨items, rfl, hitems⟩
    exact readAll?_of_forall₂ (hitems.imp fun _ _ => ofJson?_of_isForm)
  ofJson?_of_isFlawed := by
    rintro j (rfl | ⟨items, rfl, item, hmem, hitem⟩)
    · rfl
    · exact readAll?_of_mem hmem (HasForms.ofJson?_of_isFlawed hitem)

/-! ## Options and pairs -/

/-- What is read as something is no `null`. -/
theorem ne_null_of_isForm [RefusesNull α] {x : α} {j : Json} (h : IsForm x j) : j ≠ .null := by
  rintro rfl
  have hread := ofJson?_of_isForm h
  rw [RefusesNull.ofJson?_null] at hread
  cases hread

/-- Nothing is given as `null`. -/
instance [RefusesNull α] : HasForms (Option α) where
  IsForm x j :=
    match x with
    | none => j = .null
    | some y => IsForm y j
  IsFlawed j := j ≠ .null ∧ HasForms.IsFlawed α j
  isForm_toJson x := by
    cases x with
    | none => rfl
    | some y => exact isForm_toJson y
  ofJson?_of_isForm := by
    intro x j h
    cases x with
    | none =>
      rw [show j = .null from h]
      rfl
    | some y =>
      -- a form of `y` is not `null`, so it is not taken for nothing
      have hy : IsForm y j := h
      rw [ofJson?_option (ne_null_of_isForm hy), ofJson?_of_isForm hy]
      rfl
  ofJson?_of_isFlawed := by
    rintro j ⟨hne, hflawed⟩
    rw [ofJson?_option hne, HasForms.ofJson?_of_isFlawed hflawed]
    rfl

instance : RefusesNull (α × β) := ⟨rfl⟩

/-- A pair is given as a list of two. -/
instance : HasForms (α × β) where
  IsForm p j := ∃ a b, j = .arr [a, b] ∧ IsForm p.1 a ∧ IsForm p.2 b
  IsFlawed j :=
    j = .null ∨ ∃ a b, j = .arr [a, b] ∧ (HasForms.IsFlawed α a ∨ HasForms.IsFlawed β b)
  isForm_toJson p := ⟨_, _, rfl, isForm_toJson p.1, isForm_toJson p.2⟩
  ofJson?_of_isForm := by
    rintro p j ⟨a, b, rfl, ha, hb⟩
    show (ofJson? a).bind (fun x => (ofJson? b).bind fun y => some (x, y)) = some p
    rw [ofJson?_of_isForm ha, ofJson?_of_isForm hb]
    rfl
  ofJson?_of_isFlawed := by
    rintro j (rfl | ⟨a, b, rfl, hflawed⟩)
    · rfl
    · show (ofJson? a).bind (fun x => (ofJson? b).bind fun y => some (x, y)) = none
      rcases hflawed with ha | hb
      · rw [HasForms.ofJson?_of_isFlawed ha]
        rfl
      · rw [HasForms.ofJson?_of_isFlawed hb]
        cases (ofJson? a : Option α) <;> rfl

/-! ## Maps -/

instance : RefusesNull (KeyMap α) := ⟨rfl⟩

/-- A map is given entry by entry, in the order of the keys. -/
instance : HasForms (KeyMap α) where
  IsForm m j := ∃ members, j = .obj members ∧
    List.Forall₂ (fun e member => member.1 = e.1 ∧ IsForm e.2 member.2) m.entries members
  IsFlawed j :=
    j = .null ∨ ∃ members, j = .obj members ∧ ∃ member ∈ members, HasForms.IsFlawed α member.2
  isForm_toJson m :=
    ⟨(m.map toJson).entries, rfl, List.forall₂_map_right_iff.mpr
      (List.forall₂_same.mpr fun e _ => ⟨rfl, isForm_toJson e.2⟩)⟩
  ofJson?_of_isForm := by
    rintro m j ⟨members, rfl, hmembers⟩
    show (readAll? (fun m => (ofJson? m.2).map fun x => (m.1, x)) members).map KeyMap.ofList = _
    have hread : readAll? (fun m => (ofJson? m.2).map fun x => (m.1, x)) members =
        some m.entries := by
      refine readAll?_of_forall₂ (hmembers.imp fun e member h => ?_)
      rw [ofJson?_of_isForm h.2, h.1]
      rfl
    rw [hread]
    -- the entries are in the order of their keys, so no entry is put in another place
    exact congrArg some (KeyMap.ofList_of_ordered m.ordered)
  ofJson?_of_isFlawed := by
    rintro j (rfl | ⟨members, rfl, member, hmem, hmember⟩)
    · rfl
    · show (readAll? (fun m => (ofJson? m.2).map fun x => (m.1, x)) members).map _ = none
      rw [readAll?_of_mem hmem]
      · rfl
      · rw [HasForms.ofJson?_of_isFlawed hmember]
        rfl

end Compound

/-! ## Words -/

/-- The forms of the words of an enumeration: the word, or an object whose only member is the word
beside `null`. -/
@[reducible]
def HasForms.ofWords {α : Type} [Coded α] (name : α → String) (words : List (String × α))
    (hwritten : ∀ x : α, toJson x = .str (name x))
    (hread : ∀ j, (ofJson? j : Option α) = word? words j)
    (hname : ∀ x, KeyMap.lookup (name x) words = some x) : HasForms α where
  IsForm x j := j = .str (name x) ∨ j = .obj [(name x, .null)]
  IsFlawed j := j = .null
  isForm_toJson x := .inl (hwritten x)
  ofJson?_of_isForm := by
    rintro x j (rfl | rfl)
    · rw [hread]
      exact hname x
    · rw [hread]
      exact hname x
  ofJson?_of_isFlawed := by
    rintro j rfl
    exact hread .null

end CatalogSearch
