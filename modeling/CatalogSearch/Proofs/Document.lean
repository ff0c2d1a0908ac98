import CatalogSearch.Document
import CatalogSearch.Proofs.Batches
import CatalogSearch.Proofs.KeyMap

/-!
# Documents made by writes

However many writes make a document, its fields stand in the order in which they were first
mentioned, each once, with the values that were put last and those that were added since.

- `Document.Write`, `Document.applyAll`: a write, and several of them one after the other.
- `Document.names_apply`, `Document.values?_apply`, `Document.getElem?_fields_apply`: what one
  write does to the names, to the values and to the places of the fields.
- `Document.IsBuilt`: what writes make of a document, told without running them.
- `Document.applyAll_isBuilt`: they make that of every document whose names are distinct.
-/

namespace CatalogSearch

namespace Document

/-- A write to a document. -/
inductive Write where
  /-- One more value of a field, in a finished document or in one that is being put together. -/
  | add (name : String) (value : Json)
  /-- Values for a field, over any it had. -/
  | put (name : String) (values : List Json)

namespace Write

/-- The field that a write mentions. -/
def name : Write → String
  | add name _ => name
  | put name _ => name

/-- What a write makes of the values that its field had. -/
def change : Write → List Json → List Json
  | add _ value, values => values ++ [value]
  | put _ values, _ => values

/-- The value that a write adds to a field. -/
def added? (field : String) : Write → Option Json
  | add name value => if name = field then some value else none
  | put _ _ => none

end Write

/-- The document after a write. -/
def apply (d : Document) : Write → Document
  | .add name value => d.add name value
  | .put name values => d.put name values

/-- The document after writes, one after the other. -/
def applyAll (d : Document) (ws : List Write) : Document :=
  ws.foldl apply d

/-- The values that writes add to a field, in order. -/
def added (field : String) (ws : List Write) : List Json :=
  ws.filterMap (Write.added? field)

theorem applyAll_cons (d : Document) (w : Write) (ws : List Write) :
    d.applyAll (w :: ws) = (d.apply w).applyAll ws :=
  rfl

theorem applyAll_append (d : Document) (ws more : List Write) :
    d.applyAll (ws ++ more) = (d.applyAll ws).applyAll more :=
  List.foldl_append

/-! ## One write -/

/-- The names after a change: the field that is changed is there then. -/
theorem map_update (name : String) (f : List Json → List Json) (l : List (String × List Json)) :
    (update name f l).map (·.1) = addNew (l.map (·.1)) name := by
  induction l with
  | nil => rfl
  | cons e l ih =>
    rw [update]
    by_cases h : e.1 = name
    · simp [addNew, h]
    · rw [if_neg h, List.map_cons, ih, List.map_cons]
      by_cases hl : name ∈ l.map (·.1)
      · rw [addNew, addNew, if_pos hl, if_pos (List.mem_cons_of_mem _ hl)]
      · have hcons : name ∉ e.1 :: l.map (·.1) :=
          List.not_mem_cons_of_ne_of_not_mem (Ne.symm h) hl
        rw [addNew, addNew, if_neg hl, if_neg hcons]
        rfl

/-- A field that is not changed keeps its place and its values. -/
theorem getElem?_update_iff {name other : String} (h : other ≠ name) (f : List Json → List Json)
    (l : List (String × List Json)) (i : Nat) (values : List Json) :
    (update name f l)[i]? = some (other, values) ↔ l[i]? = some (other, values) := by
  induction l generalizing i with
  | nil => cases i <;> simp [update, Ne.symm h]
  | cons e l ih =>
    rw [update]
    split
    · next he => cases i <;> simp [Prod.ext_iff, he, Ne.symm h]
    · cases i with
      | zero => exact Iff.rfl
      | succ i => exact ih i

/-- A write changes the values of the field that it mentions. -/
theorem apply_eq (d : Document) (w : Write) : d.apply w = ⟨update w.name w.change d.fields⟩ := by
  cases w <;> rfl

theorem names_apply (d : Document) (w : Write) : (d.apply w).names = addNew d.names w.name := by
  rw [apply_eq]
  exact map_update w.name w.change d.fields

theorem values?_apply (d : Document) (w : Write) (name : String) :
    (d.apply w).values? name =
      if name = w.name then some (w.change ((d.values? name).getD [])) else d.values? name := by
  rw [apply_eq]
  by_cases h : name = w.name
  · rw [if_pos h, h]
    exact lookup_update_self w.name w.change d.fields
  · rw [if_neg h]
    exact lookup_update_of_ne h w.change d.fields

theorem getElem?_fields_apply {d : Document} {w : Write} {name : String} (h : name ≠ w.name)
    (i : Nat) (values : List Json) :
    (d.apply w).fields[i]? = some (name, values) ↔ d.fields[i]? = some (name, values) := by
  rw [apply_eq]
  exact getElem?_update_iff h w.change d.fields i values

/-- A write that puts no values into a field leaves it those it had, with what is added. -/
theorem getD_values?_apply {d : Document} {w : Write} {name : String}
    (h : ∀ values, w ≠ .put name values) :
    ((d.apply w).values? name).getD [] = (d.values? name).getD [] ++ (w.added? name).toList := by
  rw [values?_apply]
  cases w with
  | add field value =>
    by_cases hname : field = name
    · simp [Write.name, Write.change, Write.added?, hname]
    · simp [Write.name, Write.added?, hname, Ne.symm hname]
  | put field values =>
    have hname : name ≠ field := fun heq => h values (by rw [heq])
    simp [Write.name, Write.added?, hname]

/-! ## Several writes -/

/-- The names after writes: those of the start, then the new ones. -/
theorem names_applyAll (d : Document) (ws : List Write) :
    (d.applyAll ws).names = d.names ++ distinctFrom d.names (ws.map Write.name) := by
  have hfold : ∀ d : Document,
      (d.applyAll ws).names = (ws.map Write.name).foldl addNew d.names := by
    induction ws with
    | nil => exact fun d => rfl
    | cons w ws ih =>
      intro d
      rw [applyAll_cons, ih, names_apply]
      rfl
  rw [hfold, foldl_addNew]

theorem mem_names_applyAll {d : Document} {ws : List Write} {name : String} :
    name ∈ (d.applyAll ws).names ↔ name ∈ d.names ∨ name ∈ ws.map Write.name := by
  rw [names_applyAll, List.mem_append, mem_distinctFrom]
  by_cases h : name ∈ d.names <;> simp [h]

theorem getElem?_fields_applyAll {d : Document} {ws : List Write} {name : String}
    (h : name ∉ ws.map Write.name) (i : Nat) (values : List Json) :
    (d.applyAll ws).fields[i]? = some (name, values) ↔ d.fields[i]? = some (name, values) := by
  induction ws generalizing d with
  | nil => exact Iff.rfl
  | cons w ws ih =>
    obtain ⟨hw, hws⟩ := not_or.mp (mt List.mem_cons.mpr h)
    rw [applyAll_cons, ih hws, getElem?_fields_apply hw]

/-- Without values that are put into it, a field has those of the start and the added ones. -/
theorem getD_values?_applyAll {d : Document} {ws : List Write} {name : String}
    (h : ∀ values, .put name values ∉ ws) :
    ((d.applyAll ws).values? name).getD [] = (d.values? name).getD [] ++ added name ws := by
  induction ws generalizing d with
  | nil => simp [applyAll, added]
  | cons w ws ih =>
    have hw : ∀ values, w ≠ .put name values := fun values heq => h values (by simp [heq])
    have hws : ∀ values, .put name values ∉ ws := fun values hmem => h values (by simp [hmem])
    rw [applyAll_cons, ih hws, getD_values?_apply hw]
    cases hadded : w.added? name <;> simp [added, hadded]

theorem isSome_values?_iff {d : Document} {name : String} :
    (d.values? name).isSome ↔ name ∈ d.names :=
  KeyMap.lookup_isSome_iff name d.fields

/-- A field that is there has some values, if only none. -/
theorem values?_eq_some_getD {d : Document} {name : String} (h : name ∈ d.names) :
    d.values? name = some ((d.values? name).getD []) := by
  obtain ⟨values, hvalues⟩ := Option.isSome_iff_exists.mp (isSome_values?_iff.mpr h)
  rw [hvalues]
  rfl

/-- The values put last stand before all that were added since, whatever came before. -/
theorem values?_applyAll_put (d : Document) (before : List Write) {name : String}
    (values : List Json) {after : List Write} (h : ∀ others, .put name others ∉ after) :
    (d.applyAll (before ++ .put name values :: after)).values? name =
      some (values ++ added name after) := by
  rw [applyAll_append, applyAll_cons]
  have hput : ((d.applyAll before).apply (.put name values)).values? name = some values :=
    values?_put_self (d.applyAll before) name values
  have hmem : name ∈ (((d.applyAll before).apply (.put name values)).applyAll after).names :=
    mem_names_applyAll.mpr (.inl (isSome_values?_iff.mp (by rw [hput]; rfl)))
  rw [values?_eq_some_getD hmem, getD_values?_applyAll h, hput]
  rfl

/-- What writes make of a document. -/
structure IsBuilt (start : Document) (ws : List Write) (d : Document) : Prop where
  /-- No field stands twice. -/
  distinct : d.names.Nodup
  /-- The fields of the start come first. The new ones follow, in the order in which the writes
  first mention them. -/
  names : ∃ fresh, d.names = start.names ++ fresh ∧
    IsDistinct ((ws.map Write.name).filter (· ∉ start.names)) fresh
  /-- A field has the values that were put into it last, and those that were added since. -/
  replaced : ∀ before name values after, ws = before ++ .put name values :: after →
    (∀ others, .put name others ∉ after) → d.values? name = some (values ++ added name after)
  /-- If none were put into it, it has the values of the start, if it was there, and the added
  ones. -/
  extended : ∀ name, (∀ values, .put name values ∉ ws) →
    name ∈ start.names ∨ name ∈ ws.map Write.name →
      d.values? name = some ((start.values? name).getD [] ++ added name ws)
  /-- A field that was neither there nor mentioned has no values, and every other one has. -/
  missing : ∀ name, d.values? name = none ↔ name ∉ start.names ∧ name ∉ ws.map Write.name
  /-- Fields that are not mentioned keep their places and their values. -/
  untouched : ∀ name, name ∉ ws.map Write.name → ∀ (i : Nat) values,
    d.fields[i]? = some (name, values) ↔ start.fields[i]? = some (name, values)
  /-- The values of a field are all that stands under its name. -/
  whole : ∀ name values, (name, values) ∈ d.fields ↔ d.values? name = some values
  /-- The first value of a field is the head of its values. -/
  first : ∀ name value, d.first? name = some value ↔ ∃ rest, d.values? name = some (value :: rest)

theorem nodup_names_applyAll {d : Document} (h : d.names.Nodup) (ws : List Write) :
    (d.applyAll ws).names.Nodup := by
  rw [names_applyAll]
  refine List.nodup_append.mpr ⟨h, (isDistinct_distinctFrom _ _).nodup, ?_⟩
  rintro name hname other hother rfl
  exact (mem_distinctFrom.mp hother).2 hname

theorem first?_eq_some_iff {d : Document} {name : String} {value : Json} :
    d.first? name = some value ↔ ∃ rest, d.values? name = some (value :: rest) := by
  rw [first?, Option.bind_eq_some_iff]
  simp only [List.head?_eq_some_iff]
  constructor
  · rintro ⟨values, hvalues, rest, rfl⟩
    exact ⟨rest, hvalues⟩
  · rintro ⟨rest, hvalues⟩
    exact ⟨value :: rest, hvalues, rest, rfl⟩

/-- **Ordered fields.** Writes to a document whose names are distinct keep them distinct, in the
order of their first mention, and every field has the values put last with those added since. -/
theorem applyAll_isBuilt (start : Document) (h : start.names.Nodup) (ws : List Write) :
    start.IsBuilt ws (start.applyAll ws) where
  distinct := nodup_names_applyAll h ws
  names := ⟨_, names_applyAll start ws, isDistinct_distinctFrom _ _⟩
  replaced := by
    rintro before name values after rfl hafter
    exact values?_applyAll_put start before values hafter
  extended name hput hmem := by
    rw [values?_eq_some_getD (mem_names_applyAll.mpr hmem), getD_values?_applyAll hput]
  missing name := by
    rw [← Option.not_isSome_iff_eq_none, isSome_values?_iff, mem_names_applyAll, not_or]
  untouched name hname := getElem?_fields_applyAll hname
  whole name values :=
    ⟨KeyMap.lookup_of_mem (nodup_names_applyAll h ws), KeyMap.mem_of_lookup⟩
  first _ _ := first?_eq_some_iff

/-- A document with a title of two values, and an empty field. -/
def titledDocument : Document :=
  ⟨[("title", [.str "a", .str "b"]), ("note", [])]⟩

/-- Writes to an old field and to new ones, one of them written over. -/
def mixedWrites : List Write :=
  [.add "size" (.int 1), .add "title" (.str "c"), .put "tag" [.null], .put "size" [.int 2, .int 3],
    .add "tag" (.bool true), .add "size" (.int 4)]

theorem applyAll_isBuilt_mixed :
    titledDocument.names.Nodup ∧
      titledDocument.IsBuilt mixedWrites (titledDocument.applyAll mixedWrites) ∧
      titledDocument.applyAll mixedWrites = ⟨[("title", [.str "a", .str "b", .str "c"]),
        ("note", []), ("size", [.int 2, .int 3, .int 4]), ("tag", [.null, .bool true])]⟩ := by
  have hdistinct : titledDocument.names.Nodup := by decide
  exact ⟨hdistinct, applyAll_isBuilt titledDocument hdistinct mixedWrites, rfl⟩

end Document

end CatalogSearch
