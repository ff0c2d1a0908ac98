import CatalogSearch.Proofs.Forms.Catalog

/-!
# Annotations without tags

The written form of an annotation does not name its kind. The kinds are tried one after the other:
counted values, completions, words, flags. Only an empty list fits more than one of them.

- `Annotation.untagged`: the annotation that is read back.
- `Annotation.ofJson?_toJson`: every annotation is read back so.
- `Annotations.Untagged`, `Annotations.untagged`: what this means for annotations by name.
-/

namespace CatalogSearch

/-! ## Lists of one kind read as another -/

/-- A pair of texts is no counted attribute: its second text is no list of values. -/
theorem facetResult_ne_pair (p : String × String) :
    (ofJson? (toJson p) : Option FacetResult) = none :=
  rfl

/-- No list of pairs but the empty one is a list of counted attributes or of words. -/
theorem ofJson?_pairs {pairs : List (String × String)} (hne : pairs ≠ []) :
    (ofJson? (toJson pairs) : Option (List FacetResult)) = none ∧
      (ofJson? (toJson pairs) : Option (List String)) = none := by
  obtain ⟨p, rest, rfl⟩ := List.exists_cons_of_ne_nil hne
  have hmem : toJson p ∈ (p :: rest).map toJson := List.mem_cons_self
  exact ⟨readAll?_of_mem hmem (facetResult_ne_pair p), readAll?_of_mem hmem rfl⟩

/-- No list of words but the empty one is a list of counted attributes or of pairs. -/
theorem ofJson?_words {words : List String} (hne : words ≠ []) :
    (ofJson? (toJson words) : Option (List FacetResult)) = none ∧
      (ofJson? (toJson words) : Option (List (String × String))) = none := by
  obtain ⟨w, rest, rfl⟩ := List.exists_cons_of_ne_nil hne
  have hmem : toJson w ∈ (w :: rest).map toJson := List.mem_cons_self
  exact ⟨readAll?_of_mem hmem rfl, readAll?_of_mem hmem rfl⟩

namespace Annotation

/-- The annotation that is read back: an empty list has lost its kind. -/
def untagged : Annotation → Annotation
  | .completions [] => .facets []
  | .terms [] => .facets []
  | x => x

/-- Only the two empty lists change. -/
theorem untagged_eq_self_iff {x : Annotation} :
    x.untagged = x ↔ x ≠ .completions [] ∧ x ≠ .terms [] := by
  cases x with
  | facets results => exact iff_of_true rfl ⟨nofun, nofun⟩
  | completions pairs => cases pairs <;> simp [untagged]
  | terms words => cases words <;> simp [untagged]
  | flag b => exact iff_of_true rfl ⟨nofun, nofun⟩

/-- The kinds are tried one after the other. -/
theorem ofJson?_eq (j : Json) : (ofJson? j : Option Annotation) =
    (((ofJson? j).map facets).or (((ofJson? j).map completions).or
      (((ofJson? j).map terms).or ((ofJson? j).map flag)))) := by
  show ((ofJson? j).map facets <|> (ofJson? j).map completions <|> (ofJson? j).map terms <|>
    (ofJson? j).map flag) = _
  cases (ofJson? j : Option (List FacetResult)) with
  | some results => rfl
  | none =>
    cases (ofJson? j : Option (List (String × String))) with
    | some pairs => rfl
    | none => cases (ofJson? j : Option (List String)) <;> rfl

/-- Counted values are tried first, in all their forms. -/
theorem ofJson?_of_facets {results : List FacetResult} {j : Json} (h : IsForm results j) :
    (ofJson? j : Option Annotation) = some (.facets results) := by
  rw [ofJson?_eq, ofJson?_of_isForm h]
  rfl

/-- Every annotation is read back, without its kind if it is an empty list. -/
theorem ofJson?_toJson (x : Annotation) : ofJson? (toJson x) = some x.untagged := by
  -- a list of one kind is read as such if the kinds that are tried before refuse it
  cases x with
  | facets results => exact ofJson?_of_facets (isForm_toJson results)
  | completions pairs =>
    by_cases hne : pairs = []
    · subst hne
      rfl
    · have hread : ofJson? (toJson pairs) = some pairs := ofJson?_of_isForm (isForm_toJson pairs)
      have hself : (completions pairs).untagged = completions pairs :=
        untagged_eq_self_iff.mpr ⟨fun h => hne (completions.inj h), nofun⟩
      show ofJson? (toJson pairs) = _
      rw [ofJson?_eq, (ofJson?_pairs hne).1, hread, hself]
      rfl
  | terms words =>
    by_cases hne : words = []
    · subst hne
      rfl
    · have hread : ofJson? (toJson words) = some words := ofJson?_of_isForm (isForm_toJson words)
      have hself : (terms words).untagged = terms words :=
        untagged_eq_self_iff.mpr ⟨nofun, fun h => hne (terms.inj h)⟩
      show ofJson? (toJson words) = _
      rw [ofJson?_eq, (ofJson?_words hne).1, (ofJson?_words hne).2, hread, hself]
      rfl
  | flag b => rfl

end Annotation

/-! ## Annotations by name -/

/-- A map is read value by value. -/
theorem KeyMap.ofJson?_toJson {α : Type} [Coded α] {f : α → α}
    (h : ∀ x : α, ofJson? (toJson x) = some (f x)) (m : KeyMap α) :
    ofJson? (toJson m) = some (m.map f) := by
  have hread : readAll? (fun e => (ofJson? e.2).map fun x => (e.1, x)) (m.map toJson).entries =
      some (m.map f).entries := by
    refine readAll?_of_forall₂ (List.forall₂_map_left_iff.mpr (List.forall₂_map_right_iff.mpr
      (List.forall₂_same.mpr fun e _ => ?_)))
    dsimp only
    rw [h]
    rfl
  show (readAll? (fun e => (ofJson? e.2).map fun x => (e.1, x)) (m.map toJson).entries).map
    KeyMap.ofList = _
  rw [hread]
  -- no key changes, so the entries stay in their order
  exact congrArg some (KeyMap.ofList_of_ordered (m.map f).ordered)

/-- A map does not change if none of its values does. -/
theorem KeyMap.map_eq_self_iff {α : Type} {f : α → α} {m : KeyMap α} :
    m.map f = m ↔ ∀ x ∈ m.values, f x = x := by
  have hentries : m.map f = m ↔ m.entries.map (fun e => (e.1, f e.2)) = m.entries.map id := by
    rw [List.map_id]
    exact ⟨congrArg entries, fun h => ext_entries (show (m.map f).entries = m.entries from h)⟩
  rw [hentries, List.map_inj_left, values, List.forall_mem_map]
  exact forall₂_congr fun e _ => ⟨fun h => (Prod.mk.inj h).2, fun h => Prod.ext rfl h⟩

/-- What becomes of annotations that are written and read back. -/
structure Annotations.Untagged (a : Annotations) : Prop where
  /-- They are read back, with empty counted values for every other empty list. -/
  read : ofJson? (toJson a) = some (a.map Annotation.untagged)
  /-- They are the same unless one of them is such a list. -/
  exact : ofJson? (toJson a) = some a ↔ ∀ x ∈ a.values, x ≠ .completions [] ∧ x ≠ .terms []
  /-- No other list of pairs can be taken for counted values or for words. -/
  pairs : ∀ pairs : List (String × String), pairs ≠ [] →
    (ofJson? (toJson pairs) : Option (List FacetResult)) = none ∧
      (ofJson? (toJson pairs) : Option (List String)) = none
  /-- No other list of words can be taken for counted values or for pairs. -/
  words : ∀ words : List String, words ≠ [] →
    (ofJson? (toJson words) : Option (List FacetResult)) = none ∧
      (ofJson? (toJson words) : Option (List (String × String))) = none
  /-- And yet the fields of counted values may be listed. -/
  listed : ∀ results : List FacetResult,
    (ofJson? (.arr (results.map fun f =>
      .arr [toJson f.name, toJson f.values, toJson f.counts])) : Option Annotation) =
        some (.facets results)

/-- **Kinds are read back.** Annotations are read back as they were, but for the empty lists of
completions and of words. -/
theorem Annotations.untagged (a : Annotations) : a.Untagged where
  read := KeyMap.ofJson?_toJson Annotation.ofJson?_toJson a
  exact := by
    rw [KeyMap.ofJson?_toJson Annotation.ofJson?_toJson a]
    constructor
    · intro h x hx
      exact Annotation.untagged_eq_self_iff.mp (KeyMap.map_eq_self_iff.mp (Option.some.inj h) x hx)
    · intro h
      exact congrArg some (KeyMap.map_eq_self_iff.mpr fun x hx =>
        Annotation.untagged_eq_self_iff.mpr (h x hx))
  pairs _ := ofJson?_pairs
  words _ := ofJson?_words
  listed results := by
    refine Annotation.ofJson?_of_facets ⟨_, rfl, ?_⟩
    refine List.forall₂_map_right_iff.mpr (List.forall₂_same.mpr fun f _ => ?_)
    exact ⟨.listed _, rfl, offers_listed (Field.isForm_slots FacetResult.layout f)⟩

/-- A list of three is a counted attribute, and a list of two texts is a completion. -/
example :
    (ofJson? (.arr [.arr [.str "kind", .arr [.str "map"], .arr [.int 2]]]) : Option Annotation) =
        some (.facets [⟨"kind", ["map"], [2]⟩]) ∧
      (ofJson? (.arr [.arr [.str "kind", .str "map"]]) : Option Annotation) =
        some (.completions [("kind", "map")]) :=
  ⟨rfl, rfl⟩

end CatalogSearch
