import CatalogSearch.Engine.Response
import CatalogSearch.Proofs.Forms.Records

/-!
# Forms of nested counts

Counted values hold further ones to any depth. A pivot is read with as many levels as its JSON value
has, and nothing within the value has as many.

- `Pivot.IsForm`: the forms of a pivot; those of the pivots within it are forms of the same kind.
- `Pivot.IsFlawedWithin`: a flaw at one of the first levels.
- `Pivot.read?_of_isForm`, `Pivot.read?_of_isFlawedWithin`: what is read with enough levels, and
  with any.
-/

namespace CatalogSearch

/-! ## Levels of records -/

theorem depth_le_membersDepth {name : String} {members : List (String × Json)} {j : Json}
    (h : KeyMap.lookup name members = some j) : j.depth ≤ Json.depth.membersDepth members := by
  induction members with
  | nil => cases h
  | cons e members ih =>
    rw [KeyMap.lookup] at h
    unfold Json.depth.membersDepth
    split at h
    · cases h
      exact Nat.le_max_left _ _
    · exact Nat.le_trans (ih h) (Nat.le_max_right _ _)

namespace Record

/-- What a record holds has fewer levels than the record. -/
theorem depth_lt_of_held {name : String} {r : Record} {j : Json} (h : r.held name = some j) :
    j.depth < r.toJson.depth := by
  cases r with
  | named members =>
    have hmember : Json.member? name members = some j := h
    rw [member?_eq_lookup] at hmember
    exact Nat.lt_succ_of_le (depth_le_membersDepth hmember)
  | listed items =>
    cases items with
    | nil => cases h
    | cons item items =>
      cases h
      exact Nat.lt_succ_of_le (Nat.le_max_left _ _)

/-- What is left of a record has no more levels. -/
theorem depth_rest_le (r : Record) : r.rest.toJson.depth ≤ r.toJson.depth := by
  cases r with
  | named members => exact Nat.le_refl _
  | listed items =>
    cases items with
    | nil => exact Nat.le_refl _
    | cons item items => exact Nat.succ_le_succ (Nat.le_max_right _ _)

end Record

/-- The slot, with no more than so many levels for what stands there. -/
def Slot.within (levels : Nat) (slot : Slot) : Slot :=
  { slot with IsForm := fun j => slot.IsForm j ∧ j.depth ≤ levels }

/-- A record with one level more holds nothing with more. -/
theorem Offers.within {slots : List Slot} {r : Record} {levels : Nat} (h : Offers slots r)
    (hdepth : r.toJson.depth ≤ levels + 1) : Offers (slots.map (·.within levels)) r := by
  induction h with
  | nil hfinished => exact .nil hfinished
  | @cons slot slots r hfits _ ih =>
    refine .cons ?_ (ih (Nat.le_trans r.depth_rest_le hdepth))
    unfold Slot.Fits at hfits ⊢
    rw [show (slot.within levels).name = slot.name from rfl]
    cases hheld : r.held slot.name with
    | some j =>
      rw [hheld] at hfits
      have hlt := Record.depth_lt_of_held hheld
      exact ⟨hfits, by omega⟩
    | none =>
      rw [hheld] at hfits
      exact hfits

/-- A reader of all forms reads those with few levels. -/
theorem ReadsSlot.within {β : Type} {reader : RecordReader β} {slot : Slot} {y : β}
    (h : ReadsSlot reader slot y) (levels : Nat) : ReadsSlot reader (slot.within levels) y := by
  intro r hfits
  refine h r ?_
  unfold Slot.Fits at hfits ⊢
  rw [show (slot.within levels).name = slot.name from rfl] at hfits
  cases hheld : r.held slot.name with
  | some j =>
    rw [hheld] at hfits
    exact hfits.1
  | none =>
    rw [hheld] at hfits
    exact hfits

namespace Pivot

/-! ## The forms -/

/-- The slots of a pivot, with what may stand for the values within it. They may be left out if
there are none. -/
def slots (field : String) (value : Json) (count : UInt64) (inner : List Pivot)
    (areForms : List Json → Prop) : List Slot :=
  [.required "field" field, .required "value" value, .required "count" count,
    { name := "pivot"
      written := .arr (writeAll inner)
      IsForm := fun j => ∃ items, j = .arr items ∧ areForms items
      MayLack := fun _ => inner = [] }]

/-- The fields of a pivot, with what must not stand among the values within it. -/
def gaps (isFlawed : Json → Prop) : List Gap :=
  [.required "field" String, .required "value" Json, .required "count" UInt64,
    { name := "pivot"
      IsFlawed := fun j => j = .null ∨ ∃ items, j = .arr items ∧ ∃ item ∈ items, isFlawed item
      MustHold := fun _ => False }]

mutual

/-- The ways to give a pivot. -/
def IsForm : Pivot → Json → Prop
  | mk field value count inner, j =>
    ∃ r : Record, j = r.toJson ∧ Offers (slots field value count inner (AreForms inner)) r

/-- The ways to give several pivots, item by item. -/
def AreForms : List Pivot → List Json → Prop
  | [], items => items = []
  | p :: ps, items => ∃ item rest, items = item :: rest ∧ IsForm p item ∧ AreForms ps rest

end

/-- A pivot is flawed at one of so many levels. -/
def IsFlawedWithin : Nat → Json → Prop
  | 0, _ => False
  | levels + 1, j =>
    j = .null ∨ ∃ r : Record, j = r.toJson ∧ Broken (gaps (IsFlawedWithin levels)) r

mutual

/-- A pivot is given as it is written. -/
theorem isForm_write : ∀ p : Pivot, IsForm p (write p)
  | mk field value count inner => by
    have hnames : ((slots field value count inner (AreForms inner)).map (·.name)).Nodup := by
      show ["field", "value", "count", "pivot"].Nodup
      decide
    have hwritten : ∀ slot ∈ slots field value count inner (AreForms inner),
        slot.IsForm slot.written := by
      refine List.forall_mem_cons.mpr ⟨isForm_toJson field, ?_⟩
      refine List.forall_mem_cons.mpr ⟨isForm_toJson value, ?_⟩
      refine List.forall_mem_cons.mpr ⟨isForm_toJson count, ?_⟩
      exact List.forall_mem_singleton.mpr ⟨writeAll inner, rfl, areForms_writeAll inner⟩
    exact ⟨_, rfl, offers_written hnames hwritten⟩

theorem areForms_writeAll : ∀ ps : List Pivot, AreForms ps (writeAll ps)
  | [] => rfl
  | p :: ps => ⟨write p, writeAll ps, rfl, isForm_write p, areForms_writeAll ps⟩

end

/-! ## Reading -/

/-- The pivots within a pivot, read with so many levels. -/
@[reducible]
def innerCoded (levels : Nat) : Coded (List Pivot) :=
  ⟨fun _ => .null, fun
    | .arr items => readAll? (read? levels) items
    | _ => none⟩

/-- The reader of a pivot. -/
def reader (levels : Nat) : RecordReader Pivot := do
  return mk (← required "field") (← required "value") (← required "count")
    (← @defaulted _ (innerCoded levels) "pivot" [])

theorem read?_succ (levels : Nat) (j : Json) : read? (levels + 1) j = record? (reader levels) j :=
  rfl

/-- A pivot is read if the values within it are. -/
theorem reader_reads {field : String} {value : Json} {count : UInt64} {inner : List Pivot}
    {levels : Nat} (h : ∀ items, AreForms inner items → Json.depth.itemsDepth items ≤ levels →
      readAll? (read? levels) items = some inner) :
    ReadsSlots (reader levels)
      ((slots field value count inner (AreForms inner)).map (·.within levels))
      (mk field value count inner) := by
  refine .cons (ReadsSlot.required.within levels) <|
    .cons (ReadsSlot.required.within levels) <| .cons (ReadsSlot.required.within levels) <|
    .cons ?_ .nil
  refine @Takes.reads _ (innerCoded levels) _ _ _ _ (@takes_defaulted _ (innerCoded levels) _ _)
    ?_ ?_
  · rintro j ⟨⟨items, rfl, hitems⟩, hdepth⟩
    exact h items hitems (Nat.le_of_succ_le hdepth)
  · rintro r rfl
    rfl

mutual

/-- A pivot is read in all its forms, with as many levels as they have. -/
theorem read?_of_isForm : ∀ (p : Pivot) {j : Json} {levels : Nat}, IsForm p j →
    j.depth ≤ levels → read? levels j = some p
  | mk field value count inner, j, levels, h, hdepth => by
    unfold IsForm at h
    obtain ⟨r, rfl, hoffers⟩ := h
    cases levels with
    | zero =>
      -- a record is a level of its own
      cases r <;> exact absurd hdepth (Nat.not_succ_le_zero _)
    | succ levels =>
      -- the pivots within it have a level less, which is what is left to read them with
      have hreads : ReadsSlots (reader levels)
          ((slots field value count inner (AreForms inner)).map (·.within levels))
          (mk field value count inner) :=
        reader_reads fun _ hitems hle => readAll?_of_areForms inner hitems hle
      rw [read?_succ]
      exact hreads.record? (hoffers.within hdepth)

theorem readAll?_of_areForms : ∀ (ps : List Pivot) {items : List Json} {levels : Nat},
    AreForms ps items → Json.depth.itemsDepth items ≤ levels →
      readAll? (read? levels) items = some ps
  | [], items, levels, h, _ => by
    rw [show items = [] from h]
    rfl
  | p :: ps, items, levels, h, hdepth => by
    obtain ⟨item, rest, rfl, hitem, hrest⟩ := h
    have hmax : max item.depth (Json.depth.itemsDepth rest) ≤ levels := hdepth
    unfold readAll?
    rw [read?_of_isForm p hitem (by omega), readAll?_of_areForms ps hrest (by omega)]
    rfl

end

/-- A flawed pivot is not read. -/
theorem read?_of_isFlawedWithin {depth : Nat} : ∀ {j : Json} (levels : Nat),
    IsFlawedWithin depth j → read? levels j = none := by
  -- on the level of the flaw, for any number of levels to read: without any nothing is read anyway
  induction depth with
  | zero => exact fun _ => False.elim
  | succ depth ih =>
    intro j levels h
    cases levels with
    | zero => rfl
    | succ levels =>
      rcases h with rfl | ⟨r, rfl, hbroken⟩
      · rfl
      · have hrefuses : RefusesGaps (reader levels) (gaps (IsFlawedWithin depth)) := by
          refine .cons .required fun _ => .cons .required fun _ => .cons .required fun _ =>
            .cons ?_ fun _ => .nil
          refine @Takes.refuses _ (innerCoded levels) _ _ _
            (@takes_defaulted _ (innerCoded levels) _ _) ?_ fun _ => False.elim
          rintro j (rfl | ⟨items, rfl, item, hmem, hitem⟩)
          · rfl
          · exact readAll?_of_mem hmem (ih levels hitem)
        rw [read?_succ]
        exact hrefuses.record? hbroken

instance : RefusesNull Pivot := ⟨rfl⟩

instance : HasForms Pivot where
  IsForm := IsForm
  IsFlawed j := ∃ levels, IsFlawedWithin levels j
  isForm_toJson := isForm_write
  ofJson?_of_isForm h := read?_of_isForm _ h (Nat.le_refl _)
  ofJson?_of_isFlawed := by
    rintro j ⟨levels, h⟩
    exact read?_of_isFlawedWithin j.depth h

end Pivot

end CatalogSearch
