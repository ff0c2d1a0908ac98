import CatalogSearch.Proofs.Text.Part
import CatalogSearch.Schema.Suffixed

/-!
# Names of attributes and of their fields

A field is named by its attribute and a suffix. The name of the attribute can be read off it, and
the field is private only for what the attribute is called.

- `Suffix.isMarked_of`: a suffix is a mark with characters other than the mark after it.
- `SuffixSchema.shownName_append`: the name of the attribute is shown.
- `SuffixSchema.isPrivate_append`: which attributes have private fields.
-/

namespace CatalogSearch

namespace Suffix

/-- A suffix starts with the only mark it has. -/
theorem isMarked_of (format : Format) : Text.IsMarked mark (of format) := by
  cases format <;> exact ⟨_, rfl, by decide⟩

/-- No suffix holds the piece of the names of fields with split words. -/
theorem not_holds_of (format : Format) :
    Text.holds (of format) SuffixSchema.tokenizedPart = false := by
  cases format <;> rfl

theorem of_ne_empty (format : Format) : of format ≠ "" := by
  cases format <;> decide

end Suffix

namespace SuffixSchema

/-- The name of an attribute is shown, whatever it looks like itself. -/
theorem shownName_append (name : String) (format : Format) :
    shownName (name ++ Suffix.of format) = name := by
  unfold shownName
  rw [Text.cutLast_append (Suffix.isMarked_of format)]
  exact if_pos (Suffix.of_mem_all format)

/-- Two attributes of one field have one name. -/
theorem name_eq_of_append_eq {name other : String} {format format' : Format}
    (h : name ++ Suffix.of format = other ++ Suffix.of format') : name = other := by
  rw [← shownName_append name format, h, shownName_append]

theorem mark_mem_append (name : String) (format : Format) :
    Suffix.mark ∈ (name ++ Suffix.of format).toList := by
  obtain ⟨rest, hrest, -⟩ := Suffix.isMarked_of format
  rw [String.toList_append, hrest]
  exact List.mem_append_right _ List.mem_cons_self

/-! ## Private fields

A private name other than one with split words has no suffix that could be dropped, so it shows
itself. -/

theorem shownName_append_ne (name : String) (format : Format) :
    shownName (name ++ Suffix.of format) ≠ name ++ Suffix.of format := by
  intro h
  rw [shownName_append] at h
  have hend : name ++ Suffix.of format = name ++ "" := by
    rw [String.append_empty]
    exact h.symm
  exact Suffix.of_ne_empty format ((String.append_right_inj name).mp hend)

/-- The end of a sortable copy is no suffix. -/
theorem shownName_sortCopy (front : String) :
    shownName (front ++ Suffix.sortCopy) = front ++ Suffix.sortCopy := by
  unfold shownName
  rw [Text.cutLast_append ⟨_, rfl, by decide⟩]
  exact if_neg (by decide)

theorem not_endsIn_sortCopy (name : String) (format : Format) :
    Text.endsIn (name ++ Suffix.of format) Suffix.sortCopy = false := by
  rw [Bool.eq_false_iff]
  intro h
  obtain ⟨front, hfront⟩ := Text.exists_append_of_endsIn h
  refine shownName_append_ne name format ?_
  rw [hfront, shownName_sortCopy]

/-- The names that the engine and the schema keep for themselves have no suffix. -/
theorem shownName_reserved :
    ∀ field ∈ [typeField, scoreField, distanceField, versionField], shownName field = field := by
  decide

theorem append_notMem_reserved (name : String) (format : Format) :
    name ++ Suffix.of format ∉ [typeField, scoreField, distanceField, versionField] :=
  fun h => shownName_append_ne name format (shownName_reserved _ h)

/-- The field of an attribute is private iff the attribute is named like one with split words. -/
theorem isPrivate_append (name : String) (format : Format) :
    isPrivate (name ++ Suffix.of format) = Text.holds name tokenizedPart := by
  have htokenized : Text.holds (name ++ Suffix.of format) tokenizedPart =
      Text.holds name tokenizedPart :=
    Text.holds_append ⟨_, rfl, by decide⟩ (Suffix.isMarked_of format) (Suffix.not_holds_of format)
      name
  have hreserved := append_notMem_reserved name format
  unfold isPrivate
  rw [not_endsIn_sortCopy, htokenized, decide_eq_false hreserved, Bool.false_or, Bool.or_false]

end SuffixSchema

end CatalogSearch
