import CatalogSearch.Identifiers

/-!
# Distinct identifiers and their batches

- `IsDistinct`: the members of a list once each, in the order of their first places.
- `isDistinct_distinct`, `distinct_distinct`: what `distinct` keeps is that, and keeping it again
  changes nothing.
- `addNew`, `foldl_addNew`: names that are appended one by one unless they are known already.
- `isDistinct_distinctFrom`: what comes new to known names is their distinct rest.
- `AreBatches`: a list in consecutive pieces of one size, of which only the last may be shorter.
- `areBatches_batches`: what `batches` cuts are these.
-/

namespace CatalogSearch

/-! ## Distinct identifiers -/

/-- The members of `ids`, once each, in the order of their first places. -/
structure IsDistinct (ids kept : List String) : Prop where
  mem_iff : ∀ id, id ∈ kept ↔ id ∈ ids
  ordered : kept.Pairwise fun a b => ids.idxOf a < ids.idxOf b

/-- No member stands twice. -/
theorem IsDistinct.nodup {ids kept : List String} (h : IsDistinct ids kept) : kept.Nodup := by
  refine h.ordered.imp fun {a b} hlt heq => ?_
  rw [heq] at hlt
  exact Nat.lt_irrefl _ hlt

theorem mem_distinctFrom {seen ids : List String} {id : String} :
    id ∈ distinctFrom seen ids ↔ id ∈ ids ∧ id ∉ seen := by
  induction ids generalizing seen with
  | nil => simp [distinctFrom]
  | cons first ids ih =>
    rw [distinctFrom]
    by_cases hseen : first ∈ seen
    · rw [if_pos hseen, ih, List.mem_cons]
      constructor
      · exact fun h => ⟨.inr h.1, h.2⟩
      · rintro ⟨rfl | hid, hnot⟩
        · exact absurd hseen hnot
        · exact ⟨hid, hnot⟩
    · rw [if_neg hseen, List.mem_cons, ih, List.mem_cons, List.mem_cons, not_or]
      constructor
      · rintro (rfl | ⟨hid, -, hnot⟩)
        · exact ⟨.inl rfl, hseen⟩
        · exact ⟨.inr hid, hnot⟩
      · rintro ⟨rfl | hid, hnot⟩
        · exact .inl rfl
        · by_cases heq : id = first
          · exact .inl heq
          · exact .inr ⟨hid, heq, hnot⟩

theorem idxOf_cons_of_ne {first id : String} (h : first ≠ id) (ids : List String) :
    (first :: ids).idxOf id = ids.idxOf id + 1 := by
  rw [List.idxOf_cons, beq_false_of_ne h]
  rfl

/-- Behind a member that is left out, the others keep their order. -/
theorem idxOf_cons_lt_idxOf_cons {first a b : String} {ids : List String} (ha : first ≠ a)
    (hb : first ≠ b) (h : ids.idxOf a < ids.idxOf b) :
    (first :: ids).idxOf a < (first :: ids).idxOf b := by
  rw [idxOf_cons_of_ne ha, idxOf_cons_of_ne hb]
  exact Nat.succ_lt_succ h

theorem distinctFrom_ordered (seen ids : List String) :
    (distinctFrom seen ids).Pairwise fun a b => ids.idxOf a < ids.idxOf b := by
  induction ids generalizing seen with
  | nil => exact .nil
  | cons first ids ih =>
    rw [distinctFrom]
    by_cases hseen : first ∈ seen
    · -- what is kept was not seen, so it is not the first member
      have hne : ∀ id ∈ distinctFrom seen ids, first ≠ id := by
        rintro id hid rfl
        exact (mem_distinctFrom.mp hid).2 hseen
      rw [if_pos hseen]
      exact (ih seen).imp_of_mem fun ha hb => idxOf_cons_lt_idxOf_cons (hne _ ha) (hne _ hb)
    · have hne : ∀ id ∈ distinctFrom (first :: seen) ids, first ≠ id := by
        rintro id hid rfl
        exact (mem_distinctFrom.mp hid).2 List.mem_cons_self
      rw [if_neg hseen]
      refine List.pairwise_cons.mpr ⟨fun id hid => ?_, ?_⟩
      · rw [List.idxOf_cons_self, idxOf_cons_of_ne (hne id hid)]
        exact Nat.succ_pos _
      · exact (ih _).imp_of_mem fun ha hb => idxOf_cons_lt_idxOf_cons (hne _ ha) (hne _ hb)

/-- Each identifier is kept once, at its first place. -/
theorem isDistinct_distinct (ids : List String) : IsDistinct ids (distinct ids) where
  mem_iff _ := mem_distinctFrom.trans (and_iff_left List.not_mem_nil)
  ordered := distinctFrom_ordered [] ids

/-- Nothing is left out of unseen members that differ. -/
theorem distinctFrom_of_nodup {seen ids : List String} (h : ids.Nodup)
    (hseen : ∀ id ∈ ids, id ∉ seen) : distinctFrom seen ids = ids := by
  induction ids generalizing seen with
  | nil => rfl
  | cons first ids ih =>
    obtain ⟨hfirst, hids⟩ := List.nodup_cons.mp h
    rw [distinctFrom, if_neg (hseen first List.mem_cons_self), ih hids]
    intro id hid hmem
    rcases List.mem_cons.mp hmem with rfl | hmem
    · exact hfirst hid
    · exact hseen id (List.mem_cons_of_mem _ hid) hmem

theorem distinct_distinct (ids : List String) : distinct (distinct ids) = distinct ids :=
  distinctFrom_of_nodup (isDistinct_distinct ids).nodup fun _ _ => List.not_mem_nil

theorem distinct_eq_nil_iff {ids : List String} : distinct ids = [] ↔ ids = [] := by
  rw [List.eq_nil_iff_forall_not_mem, List.eq_nil_iff_forall_not_mem]
  exact forall_congr' fun id => not_congr ((isDistinct_distinct ids).mem_iff id)

/-! ## Appending what is new -/

/-- Appends a name unless it is known. -/
def addNew (known : List String) (id : String) : List String :=
  if id ∈ known then known else known ++ [id]

/-- Only which names were seen counts, not their order. -/
theorem distinctFrom_congr {seen seen' : List String} (h : ∀ id, id ∈ seen ↔ id ∈ seen')
    (ids : List String) : distinctFrom seen ids = distinctFrom seen' ids := by
  induction ids generalizing seen seen' with
  | nil => rfl
  | cons first ids ih =>
    have hcons : ∀ id, id ∈ first :: seen ↔ id ∈ first :: seen' := by
      intro id
      simp [h]
    simp only [distinctFrom, h, ih h, ih hcons]

/-- Names appended one by one come after those that are known, without these and once each. -/
theorem foldl_addNew (known ids : List String) :
    ids.foldl addNew known = known ++ distinctFrom known ids := by
  induction ids generalizing known with
  | nil => simp [distinctFrom]
  | cons first ids ih =>
    rw [List.foldl_cons, ih, distinctFrom, addNew]
    by_cases hknown : first ∈ known
    · rw [if_pos hknown, if_pos hknown]
    · have hsame : ∀ id, id ∈ known ++ [first] ↔ id ∈ first :: known := by
        intro id
        simp [or_comm]
      rw [if_neg hknown, if_neg hknown, distinctFrom_congr hsame, List.append_assoc]
      rfl

/-- Names that were seen may be dropped beforehand. -/
theorem distinctFrom_append (seen more ids : List String) :
    distinctFrom (seen ++ more) ids = distinctFrom more (ids.filter (· ∉ seen)) := by
  induction ids generalizing more with
  | nil => rfl
  | cons first ids ih =>
    rw [distinctFrom, List.filter_cons]
    by_cases hseen : first ∈ seen
    · simp [hseen, ih]
    · have hsame : ∀ id, id ∈ first :: (seen ++ more) ↔ id ∈ seen ++ first :: more := by
        intro id
        simp [or_left_comm]
      simp [hseen, distinctFrom, ih, distinctFrom_congr hsame]

/-- What is new to the names that were seen: the others, once each, in the order of their first
places. -/
theorem isDistinct_distinctFrom (seen ids : List String) :
    IsDistinct (ids.filter (· ∉ seen)) (distinctFrom seen ids) := by
  have hdrop := distinctFrom_append seen [] ids
  rw [List.append_nil] at hdrop
  rw [hdrop]
  exact isDistinct_distinct _

/-! ## Batches -/

variable {α : Type} {size : Nat} {xs : List α}

/-- A list in consecutive pieces, as few as there can be of at most `size` members: none is empty,
and only the last may have less than `size` members. -/
structure AreBatches (size : Nat) (xs : List α) (pieces : List (List α)) : Prop where
  flatten : pieces.flatten = xs
  ne_nil : ∀ piece ∈ pieces, piece ≠ []
  length_le : ∀ piece ∈ pieces, piece.length ≤ size
  full : ∀ piece ∈ pieces.dropLast, piece.length = size
  /-- There are as many as the length of the list over the size, rounded up. -/
  count : pieces.length = (xs.length + size - 1) / size

theorem AreBatches.nil (size : Nat) : AreBatches size ([] : List α) [] := by
  refine ⟨rfl, nofun, nofun, nofun, ?_⟩
  cases size with
  | zero => exact (Nat.div_zero _).symm
  | succ n => exact (Nat.div_eq_of_lt (by simp)).symm

/-- Nothing is cut off the empty list only. -/
theorem AreBatches.eq_nil_iff {pieces : List (List α)} (h : AreBatches size xs pieces) :
    pieces = [] ↔ xs = [] := by
  rw [← h.flatten, List.flatten_eq_nil_iff]
  constructor
  · rintro rfl
    exact nofun
  · intro hnil
    refine List.eq_nil_iff_forall_not_mem.mpr fun piece hpiece => ?_
    exact h.ne_nil piece hpiece (hnil piece hpiece)

/-- A piece before others; it may be shorter if it is the last one. -/
theorem AreBatches.cons {piece rest : List α} {pieces : List (List α)}
    (h : AreBatches size rest pieces) (hne : piece ≠ []) (hle : piece.length ≤ size)
    (hfull : rest ≠ [] → piece.length = size) :
    AreBatches size (piece ++ rest) (piece :: pieces) := by
  have hpos : 0 < piece.length := List.length_pos_iff.mpr hne
  refine ⟨?_, List.forall_mem_cons.mpr ⟨hne, h.ne_nil⟩,
    List.forall_mem_cons.mpr ⟨hle, h.length_le⟩, ?_, ?_⟩
  · rw [List.flatten_cons, h.flatten]
  · by_cases hrest : rest = []
    · rw [h.eq_nil_iff.mpr hrest]
      exact nofun
    · rw [List.dropLast_cons_of_ne_nil fun hnil => hrest (h.eq_nil_iff.mp hnil)]
      exact List.forall_mem_cons.mpr ⟨hfull hrest, h.full⟩
  · rw [List.length_cons, h.count, List.length_append]
    by_cases hrest : rest = []
    · have hnone : (0 + size - 1) / size = 0 := Nat.div_eq_of_lt (by omega)
      have hone : piece.length + 0 + size - 1 = piece.length - 1 + size := by omega
      have hlast : (piece.length - 1) / size = 0 := Nat.div_eq_of_lt (by omega)
      rw [hrest, List.length_nil, hnone, hone, Nat.add_div_right _ (by omega), hlast]
    · have hmore : size + rest.length + size - 1 = rest.length + size - 1 + size := by omega
      rw [hfull hrest, hmore, Nat.add_div_right _ (by omega)]

/-- What is cut from a list are its batches. -/
theorem areBatches_batches (h : 0 < size) (xs : List α) :
    AreBatches size xs (batches size xs) := by
  suffices ∀ fuel (xs : List α), xs.length ≤ fuel → AreBatches size xs (batchesFrom size fuel xs)
    from this xs.length xs (Nat.le_refl _)
  intro fuel
  induction fuel with
  | zero =>
    intro xs hx
    rw [List.length_eq_zero_iff.mp (Nat.le_zero.mp hx)]
    exact .nil size
  | succ fuel ih =>
    intro xs hx
    unfold batchesFrom
    split
    · next he =>
      rw [List.isEmpty_iff.mp he]
      exact .nil size
    · next he =>
      have hpos : 0 < xs.length :=
        List.length_pos_iff.mpr fun hnil => he (List.isEmpty_iff.mpr hnil)
      have hrest : AreBatches size (xs.drop size) (batchesFrom size fuel (xs.drop size)) :=
        ih _ (by rw [List.length_drop]; omega)
      have htake : (xs.take size).length = min size xs.length := List.length_take
      have hcut : AreBatches size (xs.take size ++ xs.drop size)
          (xs.take size :: batchesFrom size fuel (xs.drop size)) := by
        refine hrest.cons (List.ne_nil_of_length_pos (by omega)) (by omega) fun hne => ?_
        have hmore := List.length_pos_iff.mpr hne
        rw [List.length_drop] at hmore
        omega
      rwa [List.take_append_drop] at hcut

end CatalogSearch
