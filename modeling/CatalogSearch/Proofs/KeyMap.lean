import CatalogSearch.KeyMap

/-!
# Maps as finite sets of keys

- `KeyMap.mem_keys_iff`: a key is present iff the view has a value for it.
- `KeyMap.mem_keys_ofList`: the keys of a list of entries.
- `KeyMap.keys_ordered`: the keys of a map increase strictly, so none stands twice.
- `KeyMap.get?_ofList`: the value of a key of a list is the last one beside it.
- `KeyMap.get?_ofList_of_last`: so it is what stands beside the key for the last time.
- `KeyMap.ext_get?`: a map is what its view says.
- `KeyMap.filter`: the entries whose values pass a test.
- `KeyMap.ofList_of_ordered`: entries in the order of their keys are the map of their list.
- `KeyMap.KeyedBy`: the values say under which key they stand.
-/

namespace CatalogSearch

namespace KeyMap

universe u

variable {α : Type u}

/-- The keys of a map increase strictly. -/
theorem keys_ordered (m : KeyMap α) : m.keys.Pairwise (· < ·) :=
  List.pairwise_map.mpr m.ordered

theorem lookup_isSome_iff (key : String) (l : List (String × α)) :
    (lookup key l).isSome ↔ key ∈ l.map (·.1) := by
  induction l with
  | nil => simp [lookup]
  | cons e l ih =>
    rw [List.map_cons, List.mem_cons, lookup]
    by_cases h : e.1 = key
    · rw [if_pos h]
      exact ⟨fun _ => .inl h.symm, fun _ => rfl⟩
    · rw [if_neg h, ih]
      exact ⟨.inr, fun hk => hk.resolve_left fun hek => h hek.symm⟩

/-- A key is present iff it has a value. -/
theorem mem_keys_iff {m : KeyMap α} {key : String} :
    key ∈ m.keys ↔ (m.get? key).isSome :=
  (lookup_isSome_iff key m.entries).symm

/-- If no key stands twice, every entry is found under its key. -/
theorem lookup_of_mem {key : String} {x : α} {l : List (String × α)} (h : (l.map (·.1)).Nodup)
    (hmem : (key, x) ∈ l) : lookup key l = some x := by
  induction l with
  | nil => cases hmem
  | cons e l ih =>
    obtain ⟨hfirst, hl⟩ := List.nodup_cons.mp h
    rw [lookup]
    rcases List.mem_cons.mp hmem with rfl | hmem
    · exact if_pos rfl
    · have hne : e.1 ≠ key := fun he => hfirst (List.mem_map.mpr ⟨_, hmem, he.symm⟩)
      rw [if_neg hne, ih hl hmem]

theorem mem_keys_insert {m : KeyMap α} {key other : String} {x : α} :
    other ∈ (m.insert key x).keys ↔ other = key ∨ other ∈ m.keys := by
  rw [mem_keys_iff, mem_keys_iff]
  by_cases h : other = key
  · subst h
    rw [get?_insert_self]
    simp
  · rw [get?_insert_of_ne m h]
    simp [h]

/-- The keys of a list of entries are the keys in the list. -/
theorem mem_keys_ofList {l : List (String × α)} {key : String} :
    key ∈ (ofList l).keys ↔ key ∈ l.map (·.1) := by
  -- the fold goes on from any map, whose keys stay
  have hfold : ∀ m : KeyMap α,
      key ∈ (l.foldl (fun m e => m.insert e.1 e.2) m).keys ↔
        key ∈ m.keys ∨ key ∈ l.map (·.1) := by
    induction l with
    | nil => intro m; simp
    | cons e l ih =>
      intro m
      rw [List.foldl_cons, ih, mem_keys_insert, List.map_cons, List.mem_cons, or_assoc,
        or_left_comm]
  have hempty : key ∉ (empty : KeyMap α).keys := List.not_mem_nil
  exact (hfold empty).trans (or_iff_right hempty)

/-- The view of a write. -/
theorem get?_insert (m : KeyMap α) (key other : String) (x : α) :
    (m.insert key x).get? other = if other = key then some x else m.get? other := by
  by_cases h : other = key
  · rw [if_pos h, h, get?_insert_self]
  · rw [if_neg h, get?_insert_of_ne m h]

/-- A list is searched before the one after it. -/
theorem lookup_append (key : String) (l l' : List (String × α)) :
    lookup key (l ++ l') = (lookup key l).or (lookup key l') := by
  induction l with
  | nil => rfl
  | cons e l ih =>
    rw [List.cons_append, lookup, lookup]
    by_cases h : e.1 = key
    · rw [if_pos h, if_pos h]
      rfl
    · rw [if_neg h, if_neg h, ih]

/-- A key of a list of entries has the last value that stands beside it. -/
theorem get?_ofList (key : String) (l : List (String × α)) :
    (ofList l).get? key = lookup key l.reverse := by
  -- the fold goes on from any map, whose value counts if the list has none
  have hfold : ∀ m : KeyMap α, (l.foldl (fun m e => m.insert e.1 e.2) m).get? key =
      (lookup key l.reverse).or (m.get? key) := by
    induction l with
    | nil => intro m; rfl
    | cons e l ih =>
      intro m
      have hlast : (m.insert e.1 e.2).get? key = (lookup key [e]).or (m.get? key) := by
        rw [get?_insert, lookup]
        by_cases h : e.1 = key
        · rw [if_pos h, if_pos h.symm]
          rfl
        · rw [if_neg h, if_neg (Ne.symm h)]
          rfl
      rw [List.foldl_cons, ih, hlast, List.reverse_cons, lookup_append, Option.or_assoc]
  rw [ofList, hfold, get?_empty, Option.or_none]

/-- What stands beside a key for the last time is its value. -/
theorem get?_ofList_of_last {key : String} {after : List (String × α)}
    (h : ∀ e ∈ after, e.1 ≠ key) (before : List (String × α)) (x : α) :
    (ofList (before ++ (key, x) :: after)).get? key = some x := by
  have hafter : lookup key after.reverse = none := by
    rw [← Option.not_isSome_iff_eq_none, lookup_isSome_iff, List.mem_map]
    rintro ⟨e, he, hkey⟩
    exact h e (List.mem_reverse.mp he) hkey
  rw [get?_ofList, List.reverse_append, List.reverse_cons, lookup_append, lookup_append, hafter]
  simp [lookup]

/-! ## Entries in order -/

/-- The entries whose values pass a test. -/
def filter (p : α → Bool) (m : KeyMap α) : KeyMap α :=
  ⟨m.entries.filter fun e => p e.2, m.ordered.filter _⟩

/-- Maps with the same entries are equal. -/
theorem ext_entries {m m' : KeyMap α} (h : m.entries = m'.entries) : m = m' := by
  cases m
  cases m'
  congr

theorem mem_of_lookup {key : String} {x : α} {l : List (String × α)}
    (h : lookup key l = some x) : (key, x) ∈ l := by
  induction l with
  | nil => cases h
  | cons e l ih =>
    rw [lookup] at h
    by_cases hkey : e.1 = key
    · rw [if_pos hkey] at h
      obtain rfl : e.2 = x := Option.some.inj h
      exact hkey ▸ List.mem_cons_self
    · rw [if_neg hkey] at h
      exact List.mem_cons_of_mem _ (ih h)

theorem keys_nodup (m : KeyMap α) : m.keys.Nodup :=
  m.keys_ordered.imp (S := (· ≠ ·)) fun hlt heq => String.lt_irrefl _ (heq ▸ hlt)

/-- The entries are the keys with their values. -/
theorem mem_entries_iff {m : KeyMap α} {key : String} {x : α} :
    (key, x) ∈ m.entries ↔ m.get? key = some x :=
  ⟨lookup_of_mem m.keys_nodup, mem_of_lookup⟩

/-- The entries of the map of a list come from the list. -/
theorem mem_of_mem_entries_ofList {l : List (String × α)} {e : String × α}
    (h : e ∈ (ofList l).entries) : e ∈ l := by
  have hget : (ofList l).get? e.1 = some e.2 := mem_entries_iff.mp h
  rw [get?_ofList] at hget
  exact List.mem_reverse.mp (mem_of_lookup hget)

/-- Maps with the same value under every key are equal: the order of the keys leaves no choice of
the entries. -/
theorem ext_get? {m m' : KeyMap α} (h : ∀ key, m.get? key = m'.get? key) : m = m' := by
  have hnodup : ∀ m : KeyMap α, m.entries.Nodup := fun m =>
    m.ordered.imp (S := (· ≠ ·)) fun hlt heq => String.lt_irrefl _ (heq ▸ hlt)
  have hmem : ∀ e, e ∈ m.entries ↔ e ∈ m'.entries := by
    intro e
    rw [mem_entries_iff, mem_entries_iff, h]
  have hperm := (List.perm_ext_iff_of_nodup (hnodup m) (hnodup m')).mpr hmem
  refine ext_entries (hperm.eq_of_pairwise (fun d e _ _ hde hed => ?_) m.ordered m'.ordered)
  exact absurd (String.lt_trans hde hed) (String.lt_irrefl d.1)

/-- A key after all others is placed at the end. -/
theorem place_of_forall_lt {key : String} {l : List (String × α)} (h : ∀ e ∈ l, e.1 < key)
    (x : α) : place key x l = l ++ [(key, x)] := by
  induction l with
  | nil => rfl
  | cons e l ih =>
    obtain ⟨he, hl⟩ := List.forall_mem_cons.mp h
    have hne : e.1 ≠ key := fun heq => String.lt_irrefl key (heq ▸ he)
    have hle : ¬ key < e.1 := fun hlt => String.lt_irrefl key (String.lt_trans hlt he)
    rw [place, if_neg hle, if_neg hne, ih hl]
    rfl

/-- Entries in the order of their keys are the entries of their map. -/
theorem ofList_of_ordered {l : List (String × α)} (h : l.Pairwise (·.1 < ·.1)) :
    ofList l = ⟨l, h⟩ := by
  -- what is inserted next comes after the entries that are there
  have hfold : ∀ (m : KeyMap α), (m.entries ++ l).Pairwise (·.1 < ·.1) →
      (l.foldl (fun m e => m.insert e.1 e.2) m).entries = m.entries ++ l := by
    clear h
    induction l with
    | nil => intro m _; simp
    | cons e l ih =>
      intro m hm
      have hlast : (m.insert e.1 e.2).entries = m.entries ++ [e] :=
        place_of_forall_lt (fun d hd => (List.pairwise_append.mp hm).2.2 d hd e (by simp)) e.2
      rw [List.foldl_cons, ih _ (by rw [hlast]; simpa using hm), hlast, List.append_assoc]
      rfl
  exact ext_entries (hfold empty h)

/-- Every value stands under the key that it says. -/
def KeyedBy (key : α → String) (m : KeyMap α) : Prop :=
  ∀ e ∈ m.entries, e.1 = key e.2

variable {m : KeyMap α} {key : α → String}

/-- The keys that the values say increase strictly. -/
theorem KeyedBy.values_ordered (h : m.KeyedBy key) :
    m.values.Pairwise fun x y => key x < key y := by
  refine List.pairwise_map.mpr (m.ordered.imp_of_mem fun {d e} hd he hlt => ?_)
  rw [← h d hd, ← h e he]
  exact hlt

/-- The map of some of the values under the keys they say has the entries of these values. -/
theorem KeyedBy.ofList_filter (h : m.KeyedBy key) (p : α → Bool) :
    ofList ((m.values.filter p).map fun x => (key x, x)) = m.filter p := by
  have hentries : (m.values.filter p).map (fun x => (key x, x)) = (m.filter p).entries := by
    calc (m.values.filter p).map (fun x => (key x, x))
      _ = (m.filter p).entries.map (fun e => (key e.2, e.2)) := by
        rw [values, List.filter_map, List.map_map]
        rfl
      _ = (m.filter p).entries.map id :=
        List.map_congr_left fun e he => Prod.ext (h e (List.mem_filter.mp he).1).symm rfl
      _ = (m.filter p).entries := List.map_id _
  rw [hentries]
  exact ofList_of_ordered (m.filter p).ordered

end KeyMap

end CatalogSearch
