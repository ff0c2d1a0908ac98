import CatalogSearch.Text.Blank

/-!
# Texts without the blanks around them

- `Text.IsTrimOf`: a text between blanks, which neither starts nor ends with one itself.
- `Text.trim_eq_iff`: every text has just one such part, and trimming finds it.
-/

namespace CatalogSearch

namespace Text

/-- What is left of a text without the blanks around it. -/
structure IsTrimOf (whole part : String) : Prop where
  /-- Nothing but blanks stands before and after it. -/
  between : ∃ front back : List Char, whole.toList = front ++ part.toList ++ back ∧
    (∀ c ∈ front, isBlank c = true) ∧ ∀ c ∈ back, isBlank c = true
  /-- It does not start with a blank. -/
  starts : ∀ c, part.toList.head? = some c → isBlank c = false
  /-- It does not end with a blank. -/
  ends : ∀ c, part.toList.getLast? = some c → isBlank c = false

/-- Blanks are dropped up to the first other character. -/
theorem dropWhile_blanks {front rest : List Char} (hfront : ∀ c ∈ front, isBlank c = true)
    (hrest : ∀ c, rest.head? = some c → isBlank c = false) :
    (front ++ rest).dropWhile isBlank = rest := by
  rw [List.dropWhile_append_of_pos hfront]
  cases rest with
  | nil => rfl
  | cons c rest => exact List.dropWhile_cons_of_neg (by simp [hrest c rfl])

/-- Only blanks are dropped at the end. -/
theorem exists_trimChars_append (cs : List Char) :
    ∃ back, trimChars cs ++ back = cs.dropWhile isBlank ∧ ∀ c ∈ back, isBlank c = true := by
  have hback := congrArg List.reverse
    (List.takeWhile_append_dropWhile (p := isBlank) (l := (cs.dropWhile isBlank).reverse))
  rw [List.reverse_append, List.reverse_reverse] at hback
  exact ⟨_, hback, fun c hc =>
    List.all_eq_true.mp List.all_takeWhile c (List.mem_reverse.mp hc)⟩

/-- A list of characters is what is left of it, between blanks. -/
theorem exists_trimChars (cs : List Char) :
    ∃ front back : List Char, cs = front ++ trimChars cs ++ back ∧
      (∀ c ∈ front, isBlank c = true) ∧ ∀ c ∈ back, isBlank c = true := by
  obtain ⟨back, hback, hblanks⟩ := exists_trimChars_append cs
  refine ⟨cs.takeWhile isBlank, back, ?_, fun c hc => ?_, hblanks⟩
  · rw [List.append_assoc, hback, List.takeWhile_append_dropWhile]
  · exact List.all_eq_true.mp List.all_takeWhile c hc

theorem isBlank_getLast?_trimChars (cs : List Char) {c : Char}
    (h : (trimChars cs).getLast? = some c) : isBlank c = false := by
  rw [trimChars, List.getLast?_reverse] at h
  have hdrop := List.head?_dropWhile_not isBlank (cs.dropWhile isBlank).reverse
  rw [h] at hdrop
  simpa using hdrop

/-- What is left after the blanks in front does not start with one, and no other start comes about
when those at the end are dropped. -/
theorem isBlank_head?_trimChars (cs : List Char) {c : Char}
    (h : (trimChars cs).head? = some c) : isBlank c = false := by
  obtain ⟨back, hback, -⟩ := exists_trimChars_append cs
  have hdrop := List.head?_dropWhile_not isBlank cs
  rw [← hback, List.head?_append, h] at hdrop
  simpa using hdrop

theorem isTrimOf_trim (s : String) : IsTrimOf s (trim s) := by
  unfold trim
  refine ⟨?_, fun c hc => ?_, fun c hc => ?_⟩
  · rw [String.toList_ofList]
    exact exists_trimChars s.toList
  · rw [String.toList_ofList] at hc
    exact isBlank_head?_trimChars s.toList hc
  · rw [String.toList_ofList] at hc
    exact isBlank_getLast?_trimChars s.toList hc

/-- Trimming finds the part between the blanks. -/
theorem trimChars_append {front part back : List Char} (hfront : ∀ c ∈ front, isBlank c = true)
    (hback : ∀ c ∈ back, isBlank c = true) (hstarts : ∀ c, part.head? = some c → isBlank c = false)
    (hends : ∀ c, part.getLast? = some c → isBlank c = false) :
    trimChars (front ++ part ++ back) = part := by
  unfold trimChars
  by_cases hpart : part = []
  · -- all is blank, so nothing is left already in front
    have hblanks : ∀ c ∈ front ++ back, isBlank c = true := fun c hc =>
      (List.mem_append.mp hc).elim (hfront c) (hback c)
    have hnone : ((front ++ back) ++ []).dropWhile isBlank = [] :=
      dropWhile_blanks hblanks (by simp)
    rw [List.append_nil] at hnone
    rw [hpart, List.append_nil, hnone]
    rfl
  · have hhead : ∀ c, (part ++ back).head? = some c → isBlank c = false := by
      intro c hc
      obtain ⟨first, rest, rfl⟩ := List.exists_cons_of_ne_nil hpart
      exact hstarts c hc
    have hlast : ∀ c, part.reverse.head? = some c → isBlank c = false := by
      intro c hc
      rw [List.head?_reverse] at hc
      exact hends c hc
    have hreverse : ∀ c ∈ back.reverse, isBlank c = true := fun c hc =>
      hback c (List.mem_reverse.mp hc)
    rw [List.append_assoc, dropWhile_blanks hfront hhead, List.reverse_append,
      dropWhile_blanks hreverse hlast, List.reverse_reverse]

theorem IsTrimOf.trim_eq {s t : String} (h : IsTrimOf s t) : trim s = t := by
  obtain ⟨front, back, hwhole, hfront, hback⟩ := h.between
  rw [trim, hwhole, trimChars_append hfront hback h.starts h.ends, String.ofList_toList]

/-- Trimming finds what is left of a text without the blanks around it. -/
theorem trim_eq_iff {s t : String} : trim s = t ↔ IsTrimOf s t := by
  constructor
  · rintro rfl
    exact isTrimOf_trim s
  · exact IsTrimOf.trim_eq

/-- A text without blanks around it is all that is left of it. -/
theorem IsTrimOf.self {s t : String} (h : IsTrimOf s t) : IsTrimOf t t :=
  ⟨⟨[], [], by simp⟩, h.starts, h.ends⟩

end Text

end CatalogSearch
