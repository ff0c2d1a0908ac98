import CatalogSearch.Text.Part

/-!
# Parts of a text with a marked end

A text that ends in a mark and characters other than the mark can be taken apart again at its last
mark.

- `Text.IsMarked`: the text is a mark with characters other than the mark after it.
- `Text.cutLast_append`: the cut gives both parts back.
- `Text.holds_append`: a marked part that the end does not hold stands in the front, if anywhere.
-/

namespace CatalogSearch

namespace Text

variable {mark : Char}

/-- The text starts with the mark and has no other one. -/
def IsMarked (mark : Char) (s : String) : Prop :=
  ∃ rest, s.toList = mark :: rest ∧ mark ∉ rest

/-! ## The cut at the last mark -/

theorem cutLastChars_of_notMem {cs : List Char} (h : mark ∉ cs) : cutLastChars mark cs = none := by
  induction cs with
  | nil => rfl
  | cons c cs ih =>
    obtain ⟨hc, hcs⟩ := not_or.mp (mt List.mem_cons.mpr h)
    simp only [cutLastChars, ih hcs, if_neg (Ne.symm hc)]

theorem cutLastChars_append {rest : List Char} (h : mark ∉ rest) (front : List Char) :
    cutLastChars mark (front ++ mark :: rest) = some (front, mark :: rest) := by
  induction front with
  | nil => simp [cutLastChars, cutLastChars_of_notMem h]
  | cons c front ih => simp [cutLastChars, ih]

/-- A marked end is cut off. -/
theorem cutLast_append {tail : String} (h : IsMarked mark tail) (s : String) :
    cutLast mark (s ++ tail) = some (s, tail) := by
  obtain ⟨rest, htail, hrest⟩ := h
  rw [cutLast, String.toList_append, htail, cutLastChars_append hrest, ← htail]
  simp

/-- A text that ends in another one is some front with this end. -/
theorem exists_append_of_endsIn {s tail : String} (h : endsIn s tail = true) :
    ∃ front, s = front ++ tail := by
  obtain ⟨front, hfront⟩ := List.isSuffixOf_iff_suffix.mp h
  refine ⟨String.ofList front, String.toList_injective ?_⟩
  rw [String.toList_append, String.toList_ofList, hfront]

/-! ## The pieces of a text with a marked end -/

theorem isPrefixOf_append_mark {part : List Char} (h : mark ∉ part) (cs back : List Char) :
    part.isPrefixOf (cs ++ mark :: back) = part.isPrefixOf cs := by
  induction part generalizing cs with
  | nil => simp
  | cons p part ih =>
    obtain ⟨hp, hpart⟩ := not_or.mp (mt List.mem_cons.mpr h)
    cases cs with
    | nil => simp [List.isPrefixOf_cons_cons, Ne.symm hp]
    | cons c cs => simp [List.isPrefixOf_cons_cons, ih hpart cs]

theorem holdsChars_append {part back : List Char} (hpart : mark ∉ part)
    (hback : holdsChars (mark :: part) (mark :: back) = false) (front : List Char) :
    holdsChars (mark :: part) (front ++ mark :: back) = holdsChars (mark :: part) front := by
  induction front with
  | nil => exact hback
  | cons c front ih =>
    -- a piece that starts in the front ends before the second mark
    simp [holdsChars, List.isPrefixOf_cons_cons, isPrefixOf_append_mark hpart, ih]

/-- A marked part that a marked end does not hold is not made by putting the end on. -/
theorem holds_append {part tail : String} (hpart : IsMarked mark part) (htail : IsMarked mark tail)
    (hback : holds tail part = false) (s : String) : holds (s ++ tail) part = holds s part := by
  obtain ⟨rest, hrest, hmark⟩ := hpart
  obtain ⟨back, hcs, -⟩ := htail
  unfold holds at hback ⊢
  rw [hrest, hcs] at hback
  rw [String.toList_append, hrest, hcs]
  exact holdsChars_append hmark hback s.toList

end Text

end CatalogSearch
