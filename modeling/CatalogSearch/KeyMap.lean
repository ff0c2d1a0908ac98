/-!
# Maps ordered by key

A finite map from texts, held as its entries in strictly increasing order of their keys; the order
of texts is by code point.

- `KeyMap`: the entries with their order.
- `get?`, `contains`: the view by key.
- `insert`, `alter`: the writes, which keep the order.
- `ofList`: the map in which a later entry replaces an earlier one of its key.
- Main statements: `get?_insert_self` and `get?_insert_of_ne` describe a write by the view.
-/

namespace CatalogSearch

universe u v

/-- Entries with strictly increasing keys. -/
structure KeyMap (α : Type u) where
  entries : List (String × α)
  /-- Every key comes before all later ones. -/
  ordered : entries.Pairwise (·.1 < ·.1)

namespace KeyMap

variable {α : Type u}

/-- The map without entries. -/
def empty : KeyMap α := ⟨[], .nil⟩

instance : Inhabited (KeyMap α) := ⟨empty⟩
instance : EmptyCollection (KeyMap α) := ⟨empty⟩

/-- No key is present. -/
def isEmpty (m : KeyMap α) : Bool := m.entries.isEmpty

/-- The keys in order. -/
def keys (m : KeyMap α) : List String := m.entries.map (·.1)

/-- The values in the order of their keys. -/
def values (m : KeyMap α) : List α := m.entries.map (·.2)

/-- The first value beside `key` in a list of entries. -/
def lookup (key : String) : List (String × α) → Option α
  | [] => none
  | (k, x) :: rest => if k = key then some x else lookup key rest

/-- The value of a key. -/
def get? (m : KeyMap α) (key : String) : Option α := lookup key m.entries

/-- The key has a value. -/
def contains (m : KeyMap α) (key : String) : Bool := (m.get? key).isSome

/-! ## Writing -/

/-- Puts an entry at its place in ordered entries, over one of the same key. -/
def place (key : String) (x : α) : List (String × α) → List (String × α)
  | [] => [(key, x)]
  | (k, y) :: rest =>
    if key < k then (key, x) :: (k, y) :: rest
    else if k = key then (key, x) :: rest
    else (k, y) :: place key x rest

theorem mem_place {key : String} {x : α} {l : List (String × α)} {e : String × α}
    (h : e ∈ place key x l) : e = (key, x) ∨ e ∈ l := by
  induction l with
  | nil => simpa [place] using h
  | cons d l ih =>
    unfold place at h
    split at h
    · simpa using h
    · split at h
      · rcases List.mem_cons.1 h with h | h
        · exact .inl h
        · exact .inr (List.mem_cons_of_mem _ h)
      · rcases List.mem_cons.1 h with h | h
        · exact .inr (h ▸ List.mem_cons_self ..)
        · exact (ih h).imp_right (List.mem_cons_of_mem _)

theorem place_ordered (key : String) (x : α) {l : List (String × α)}
    (h : l.Pairwise (·.1 < ·.1)) : (place key x l).Pairwise (·.1 < ·.1) := by
  induction l with
  | nil => simp [place]
  | cons d l ih =>
    obtain ⟨hd, hl⟩ := List.pairwise_cons.1 h
    unfold place
    split
    · next hk =>
      refine List.pairwise_cons.2 ⟨fun e he => ?_, h⟩
      rcases List.mem_cons.1 he with rfl | he
      · exact hk
      · exact String.lt_trans hk (hd e he)
    · split
      · next hk => exact List.pairwise_cons.2 ⟨fun e he => hk ▸ hd e he, hl⟩
      · next hlt hne =>
        refine List.pairwise_cons.2 ⟨fun e he => ?_, ih hl⟩
        rcases mem_place he with rfl | he
        · have hle : d.1 ≤ key := String.not_lt.1 hlt
          exact Decidable.byContradiction fun hc =>
            hne (String.le_antisymm hle (String.not_lt.1 hc))
        · exact hd e he

/-- Gives the key the value `x`. -/
def insert (m : KeyMap α) (key : String) (x : α) : KeyMap α :=
  ⟨place key x m.entries, place_ordered key x m.ordered⟩

/-- Changes the value of a key through `f`, which sees what the key had before. -/
def alter (m : KeyMap α) (key : String) (f : Option α → α) : KeyMap α :=
  m.insert key (f (m.get? key))

/-- The map of a list of entries, in which a later entry replaces an earlier one of its key. -/
def ofList (l : List (String × α)) : KeyMap α :=
  l.foldl (fun m e => m.insert e.1 e.2) empty

/-- Applies `f` to every value. -/
def map {β : Type v} (f : α → β) (m : KeyMap α) : KeyMap β :=
  ⟨m.entries.map fun e => (e.1, f e.2), List.pairwise_map.2 m.ordered⟩

/-! ## The view of a write -/

theorem lookup_place_self (key : String) (x : α) (l : List (String × α)) :
    lookup key (place key x l) = some x := by
  induction l with
  | nil => simp [place, lookup]
  | cons d l ih =>
    unfold place
    split
    · simp [lookup]
    · split
      · simp [lookup]
      · next hne => simp [lookup, hne, ih]

theorem lookup_place_of_ne {key other : String} (h : other ≠ key) (x : α)
    (l : List (String × α)) : lookup other (place key x l) = lookup other l := by
  induction l with
  | nil => simp [place, lookup, h.symm]
  | cons d l ih =>
    unfold place
    split
    · simp [lookup, h.symm]
    · split
      · next hk => simp [lookup, hk, h.symm]
      · simp [lookup, ih]

/-- A key has the value last given to it. -/
@[simp] theorem get?_insert_self (m : KeyMap α) (key : String) (x : α) :
    (m.insert key x).get? key = some x :=
  lookup_place_self key x m.entries

/-- The other keys keep their values. -/
theorem get?_insert_of_ne (m : KeyMap α) {key other : String} (h : other ≠ key) (x : α) :
    (m.insert key x).get? other = m.get? other :=
  lookup_place_of_ne h x m.entries

@[simp] theorem get?_empty (key : String) : (empty : KeyMap α).get? key = none := rfl

end KeyMap

end CatalogSearch
