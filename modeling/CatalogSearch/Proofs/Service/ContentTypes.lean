import CatalogSearch.Proofs.Engine.Dialogue
import CatalogSearch.Schema.Resource
import CatalogSearch.Service.Records

/-!
# The content types of the catalog

The content types are read off the nested counts of one answer. They are a set: in what order the
engine counts, how often it names a value, and what it counts below the versions makes no
difference.

- `ContentType.IsSetOf`: a list is the ordered list of a set of types; there is only one
  (`IsSetOf.unique`).
- `EngineResponse.Lists`: the types that an answer tells of, count by count.
- `EngineResponse.Alike`: answers that count the same values, in any order and any number of times.
- `Service.Discovers`: every way the content types can be found, with the queries that are asked.
- `Service.contentTypes_discovered`: they are found in one of these ways, and alike answers tell of
  the same types.
-/

namespace CatalogSearch

/-! ## Ordered sets of types -/

namespace ContentType

variable {a b c : ContentType} {types types' : List ContentType}

theorem versionPrecedes_irrefl (v : Option String) : versionPrecedes v v = false := by
  cases v with
  | none => rfl
  | some v => exact decide_eq_false (String.lt_irrefl v)

theorem versionPrecedes_trans {u v w : Option String} (h : versionPrecedes u v = true)
    (h' : versionPrecedes v w = true) : versionPrecedes u w = true := by
  match u, v, w with
  | none, some _, some _ => rfl
  | some u, some v, some w =>
    simp only [versionPrecedes, decide_eq_true_eq] at h h' ⊢
    exact String.lt_trans h h'
  | _, none, _ => simp [versionPrecedes] at h
  | _, some _, none => simp [versionPrecedes] at h'

theorem versionPrecedes_total {v w : Option String} (hne : v ≠ w)
    (h : versionPrecedes v w = false) : versionPrecedes w v = true := by
  match v, w with
  | none, none => exact absurd rfl hne
  | none, some _ => simp [versionPrecedes] at h
  | some _, none => rfl
  | some v, some w =>
    simp only [versionPrecedes, decide_eq_false_iff_not, decide_eq_true_eq] at h ⊢
    exact Decidable.byContradiction fun hnot =>
      hne (congrArg some (String.le_antisymm (String.not_lt.mp hnot) (String.not_lt.mp h)))

/-- A type comes before another one by its name, or by its version among types of one name. -/
theorem precedes_iff :
    a.precedes b = true ↔
      a.name < b.name ∨ a.name = b.name ∧ versionPrecedes a.version b.version = true := by
  simp [precedes]

theorem precedes_irrefl (c : ContentType) : ¬ c.precedes c = true := by
  intro h
  rcases precedes_iff.mp h with hname | ⟨-, hversion⟩
  · exact String.lt_irrefl _ hname
  · rw [versionPrecedes_irrefl] at hversion
    cases hversion

theorem precedes_trans (h : a.precedes b = true) (h' : b.precedes c = true) :
    a.precedes c = true := by
  rw [precedes_iff] at h h' ⊢
  rcases h with hlt | ⟨heq, hversion⟩
  · rcases h' with hlt' | ⟨heq', -⟩
    · exact .inl (String.lt_trans hlt hlt')
    · exact .inl (heq' ▸ hlt)
  · rcases h' with hlt' | ⟨heq', hversion'⟩
    · exact .inl (heq ▸ hlt')
    · exact .inr ⟨heq.trans heq', versionPrecedes_trans hversion hversion'⟩

/-- Of two types one comes first. -/
theorem precedes_total (hne : a ≠ b) (h : ¬ a.precedes b = true) : b.precedes a = true := by
  rw [precedes_iff, not_or, not_and] at h
  rw [precedes_iff]
  by_cases hname : a.name = b.name
  · refine .inr ⟨hname.symm, versionPrecedes_total (fun hversion => hne ?_) ?_⟩
    · cases a
      cases b
      congr
    · simpa using h.2 hname
  · refine .inl (Decidable.byContradiction fun hnot => hname ?_)
    exact String.le_antisymm (String.not_lt.mp hnot) (String.not_lt.mp h.1)

@[simp] theorem mem_insert : a ∈ insert c types ↔ a = c ∨ a ∈ types := by
  induction types with
  | nil => simp [insert]
  | cons d types ih =>
    unfold insert
    split
    · simp
    · split
      · next heq => simp [heq]
      · simp [ih, or_left_comm]

/-- An insertion keeps the order, and with it that no type stands twice. -/
theorem insert_ordered (h : types.Pairwise fun a b => a.precedes b = true) :
    (insert c types).Pairwise fun a b => a.precedes b = true := by
  induction types with
  | nil => simp [insert]
  | cons d types ih =>
    obtain ⟨hd, htypes⟩ := List.pairwise_cons.mp h
    unfold insert
    split
    · next hlt =>
      refine List.pairwise_cons.mpr ⟨fun e he => ?_, h⟩
      rcases List.mem_cons.mp he with rfl | he
      · exact hlt
      · exact precedes_trans hlt (hd e he)
    · split
      · exact h
      · next hnlt hne =>
        refine List.pairwise_cons.mpr ⟨fun e he => ?_, ih htypes⟩
        rcases mem_insert.mp he with rfl | he
        · exact precedes_total hne hnlt
        · exact hd e he

/-- The list has the types of a set in order, each once. -/
structure IsSetOf (types : List ContentType) (offered : ContentType → Prop) : Prop where
  ordered : types.Pairwise fun a b => a.precedes b = true
  nodup : types.Nodup
  mem_iff : ∀ c, c ∈ types ↔ offered c

/-- Types in order stand there once. -/
theorem nodup_of_ordered (h : types.Pairwise fun a b => a.precedes b = true) : types.Nodup :=
  h.imp (S := (· ≠ ·)) fun hlt heq => precedes_irrefl _ (heq ▸ hlt)

/-- A set has one ordered list. -/
theorem IsSetOf.unique {offered : ContentType → Prop} (h : IsSetOf types offered)
    (h' : IsSetOf types' offered) : types = types' := by
  have hmem : ∀ c, c ∈ types ↔ c ∈ types' := fun c => (h.mem_iff c).trans (h'.mem_iff c).symm
  have hperm := (List.perm_ext_iff_of_nodup h.nodup h'.nodup).mpr hmem
  refine hperm.eq_of_pairwise (fun a b _ _ hab hba => ?_) h.ordered h'.ordered
  exact absurd (precedes_trans hab hba) (precedes_irrefl a)

theorem orderedSet_isSetOf (types : List ContentType) : IsSetOf (orderedSet types) (· ∈ types) := by
  -- the fold goes on from any ordered list, whose types stay
  have hfold : ∀ set : List ContentType, set.Pairwise (fun a b => a.precedes b = true) →
      (types.foldl (fun set c => insert c set) set).Pairwise (fun a b => a.precedes b = true) ∧
        ∀ c, c ∈ types.foldl (fun set c => insert c set) set ↔ c ∈ set ∨ c ∈ types := by
    induction types with
    | nil => intro set hset; simpa using hset
    | cons d types ih =>
      intro set hset
      obtain ⟨hordered, hmem⟩ := ih (insert d set) (insert_ordered hset)
      refine ⟨hordered, fun c => ?_⟩
      rw [List.foldl_cons, hmem, mem_insert, List.mem_cons, or_assoc, or_left_comm]
  obtain ⟨hordered, hmem⟩ := hfold [] .nil
  have hempty : ∀ c : ContentType, c ∉ [] := fun _ => List.not_mem_nil
  exact ⟨hordered, nodup_of_ordered hordered, fun c => (hmem c).trans (or_iff_right (hempty c))⟩

end ContentType

/-! ## The types in an answer -/

/-- The text that a counted value stands for: a string for itself, any other value for its JSON
text. -/
inductive Json.CountsAs : Json → String → Prop where
  | text (s : String) : CountsAs (.str s) s
  | other {j : Json} (h : j.asString? = none) : CountsAs j j.compact

theorem Json.countsAs_iff {j : Json} {s : String} : j.CountsAs s ↔ s = j.display := by
  constructor
  · intro h
    cases h with
    | text => rfl
    | other hnone =>
      cases j with
      | str s => cases hnone
      | _ => rfl
  · rintro rfl
    cases j with
    | str s => exact .text s
    | _ => exact .other rfl

namespace EngineResponse

/-- The counts of the first counted field; without a field there are none. -/
def firstCounts (r : EngineResponse) : List CountedValue :=
  (r.facetFields.head?.map (·.values)).getD []

/-- The answer tells of a content type. -/
inductive Lists (r : EngineResponse) : ContentType → Prop where
  /-- A version is counted within its name. -/
  | version {entry : String × List Pivot} {p v : Pivot} {name version : String}
    (hentry : entry ∈ r.facetPivots) (hp : p ∈ entry.2) (hv : v ∈ p.inner)
    (hname : p.value.CountsAs name) (hversion : v.value.CountsAs version) :
    Lists r ⟨name, some version⟩
  /-- Nothing is counted within a name. -/
  | unversioned {entry : String × List Pivot} {p : Pivot} {name : String}
    (hentry : entry ∈ r.facetPivots) (hp : p ∈ entry.2) (hinner : p.inner = [])
    (hname : p.value.CountsAs name) : Lists r ⟨name, none⟩
  /-- Some nested count is empty, so the flat count of a name counts. -/
  | flat {entry : String × List Pivot} {value : CountedValue} (hentry : entry ∈ r.facetPivots)
    (hempty : entry.2 = []) (hvalue : value ∈ r.firstCounts) : Lists r ⟨value.name, none⟩

theorem unversionedTypes_eq (r : EngineResponse) :
    r.unversionedTypes = r.firstCounts.map fun c => ⟨c.name, none⟩ := by
  unfold unversionedTypes firstCounts
  cases r.facetFields <;> rfl

theorem mem_pivotTypes_iff {p : Pivot} {c : ContentType} :
    c ∈ p.contentTypes ↔
      (∃ v ∈ p.inner, c = ⟨p.value.display, some v.value.display⟩) ∨
        p.inner = [] ∧ c = ⟨p.value.display, none⟩ := by
  unfold Pivot.contentTypes
  cases p.inner with
  | nil => simp
  | cons v versions => simp [eq_comm]

/-- The types of a nested count are those of its values, and those of the flat counts if it has no
value. -/
theorem mem_typesWithin_iff {r : EngineResponse} {pivots : List Pivot} {c : ContentType} :
    c ∈ r.typesWithin pivots ↔
      (∃ p ∈ pivots, c ∈ p.contentTypes) ∨ pivots = [] ∧ c ∈ r.unversionedTypes := by
  cases pivots with
  | nil => simp [typesWithin]
  | cons p pivots => simp [typesWithin]

/-- The types that are found are those that the answer tells of. -/
theorem mem_flatMap_typesWithin_iff {r : EngineResponse} {c : ContentType} :
    c ∈ (r.facetPivots.flatMap fun entry => r.typesWithin entry.2) ↔ r.Lists c := by
  rw [List.mem_flatMap]
  constructor
  · rintro ⟨entry, hentry, hc⟩
    rcases mem_typesWithin_iff.mp hc with ⟨p, hp, hc⟩ | ⟨hempty, hc⟩
    · rcases mem_pivotTypes_iff.mp hc with ⟨v, hv, rfl⟩ | ⟨hinner, rfl⟩
      · exact .version hentry hp hv (Json.countsAs_iff.mpr rfl) (Json.countsAs_iff.mpr rfl)
      · exact .unversioned hentry hp hinner (Json.countsAs_iff.mpr rfl)
    · rw [unversionedTypes_eq] at hc
      obtain ⟨value, hvalue, rfl⟩ := List.mem_map.mp hc
      exact .flat hentry hempty hvalue
  · intro h
    cases h with
    | @version entry p v name version hentry hp hv hname hversion =>
      obtain rfl := Json.countsAs_iff.mp hname
      obtain rfl := Json.countsAs_iff.mp hversion
      refine ⟨entry, hentry, mem_typesWithin_iff.mpr (.inl ⟨p, hp, ?_⟩)⟩
      exact mem_pivotTypes_iff.mpr (.inl ⟨v, hv, rfl⟩)
    | @unversioned entry p name hentry hp hinner hname =>
      obtain rfl := Json.countsAs_iff.mp hname
      refine ⟨entry, hentry, mem_typesWithin_iff.mpr (.inl ⟨p, hp, ?_⟩)⟩
      exact mem_pivotTypes_iff.mpr (.inr ⟨hinner, rfl⟩)
    | @flat entry value hentry hempty hvalue =>
      refine ⟨entry, hentry, mem_typesWithin_iff.mpr (.inr ⟨hempty, ?_⟩)⟩
      rw [unversionedTypes_eq]
      exact List.mem_map.mpr ⟨value, hvalue, rfl⟩

theorem contentTypes_isSetOf (r : EngineResponse) :
    ContentType.IsSetOf r.contentTypes r.Lists := by
  have hset := ContentType.orderedSet_isSetOf
    (r.facetPivots.flatMap fun entry => r.typesWithin entry.2)
  exact ⟨hset.ordered, hset.nodup, fun c => (hset.mem_iff c).trans mem_flatMap_typesWithin_iff⟩

end EngineResponse

/-! ## Alike answers -/

/-- Each member of one list has its like in the other. So lists of the same members match, however
often and in whatever order these stand. -/
def Matched {α : Type} (like : α → α → Prop) (xs ys : List α) : Prop :=
  (∀ x ∈ xs, ∃ y ∈ ys, like x y) ∧ ∀ y ∈ ys, ∃ x ∈ xs, like x y

namespace Matched

variable {α : Type} {like like' : α → α → Prop} {xs ys : List α}

instance [DecidableRel like] : Decidable (Matched like xs ys) :=
  inferInstanceAs (Decidable ((∀ x ∈ xs, ∃ y ∈ ys, like x y) ∧ ∀ y ∈ ys, ∃ x ∈ xs, like x y))

theorem symm (h : Matched like xs ys) (hlike : ∀ x y, like x y → like' y x) :
    Matched like' ys xs :=
  ⟨fun y hy => (h.2 y hy).imp fun _ => .imp_right (hlike _ y),
    fun x hx => (h.1 x hx).imp fun _ => .imp_right (hlike x _)⟩

/-- Only a list without members matches another one. -/
theorem eq_nil (h : Matched like xs ys) (hnil : xs = []) : ys = [] := by
  subst hnil
  refine List.eq_nil_iff_forall_not_mem.mpr fun y hy => ?_
  obtain ⟨x, hx, -⟩ := h.2 y hy
  cases hx

end Matched

/-- The same value with the same values within it; what they are called, how often they occur and
what is counted within them makes no difference. -/
structure Pivot.Alike (p p' : Pivot) : Prop where
  value : p.value.display = p'.value.display
  inner : Matched (fun v v' => v.value.display = v'.value.display) p.inner p'.inner

instance : DecidableRel Pivot.Alike := fun p p' =>
  decidable_of_iff (p.value.display = p'.value.display ∧
      Matched (fun v v' => v.value.display = v'.value.display) p.inner p'.inner)
    ⟨fun h => ⟨h.1, h.2⟩, fun h => ⟨h.value, h.inner⟩⟩

theorem Pivot.Alike.symm {p p' : Pivot} (h : p.Alike p') : p'.Alike p :=
  ⟨h.value.symm, h.inner.symm fun _ _ => Eq.symm⟩

namespace EngineResponse

/-- The same nested counts, and the same values in the first flat one. -/
structure Alike (r r' : EngineResponse) : Prop where
  pivots : Matched (fun entry entry' => Matched Pivot.Alike entry.2 entry'.2)
    r.facetPivots r'.facetPivots
  counts : Matched (fun c c' => c.name = c'.name) r.firstCounts r'.firstCounts

instance : DecidableRel Alike := fun r r' =>
  decidable_of_iff
    (Matched (fun entry entry' => Matched Pivot.Alike entry.2 entry'.2)
        r.facetPivots r'.facetPivots ∧
      Matched (fun c c' => c.name = c'.name) r.firstCounts r'.firstCounts)
    ⟨fun h => ⟨h.1, h.2⟩, fun h => ⟨h.pivots, h.counts⟩⟩

theorem Alike.symm {r r' : EngineResponse} (h : r.Alike r') : r'.Alike r :=
  ⟨h.pivots.symm fun _ _ hentry => hentry.symm fun _ _ => Pivot.Alike.symm,
    h.counts.symm fun _ _ => Eq.symm⟩

/-- Whatever an answer tells of, alike answers do too. -/
theorem Lists.of_alike {r r' : EngineResponse} {c : ContentType} (h : r.Lists c)
    (halike : r.Alike r') : r'.Lists c := by
  cases h with
  | @version entry p v name version hentry hp hv hname hversion =>
    obtain ⟨entry', hentry', hpivots⟩ := halike.pivots.1 entry hentry
    obtain ⟨p', hp', hpivot⟩ := hpivots.1 p hp
    obtain ⟨v', hv', hvalue⟩ := hpivot.inner.1 v hv
    rw [Json.countsAs_iff, hpivot.value, ← Json.countsAs_iff] at hname
    rw [Json.countsAs_iff, hvalue, ← Json.countsAs_iff] at hversion
    exact .version hentry' hp' hv' hname hversion
  | @unversioned entry p name hentry hp hinner hname =>
    obtain ⟨entry', hentry', hpivots⟩ := halike.pivots.1 entry hentry
    obtain ⟨p', hp', hpivot⟩ := hpivots.1 p hp
    rw [Json.countsAs_iff, hpivot.value, ← Json.countsAs_iff] at hname
    exact .unversioned hentry' hp' (hpivot.inner.eq_nil hinner) hname
  | @flat entry value hentry hempty hvalue =>
    obtain ⟨entry', hentry', hpivots⟩ := halike.pivots.1 entry hentry
    obtain ⟨value', hvalue', hname⟩ := halike.counts.1 value hvalue
    rw [hname]
    exact .flat hentry' (hpivots.eq_nil hempty) hvalue'

theorem contentTypes_of_alike {r r' : EngineResponse} (h : r.Alike r') :
    r'.contentTypes = r.contentTypes := by
  have hlists : ∀ c, r'.Lists c ↔ r.Lists c :=
    fun _ => ⟨fun hc => hc.of_alike h.symm, fun hc => hc.of_alike h⟩
  have hset := r'.contentTypes_isSetOf
  refine ContentType.IsSetOf.unique ?_ r.contentTypes_isSetOf
  exact ⟨hset.ordered, hset.nodup, fun c => (hset.mem_iff c).trans (hlists c)⟩

end EngineResponse

/-! ## The service -/

/-- The field that a content type's name or version is counted by. -/
def Schema.contentField? (schema : Schema) (name : String) : Option String :=
  schema.field? name .string true .empty

/-- The query for records with a name, which counts the names and the versions within each. -/
def EngineQuery.ofContentFields (name version : String) : EngineQuery :=
  (ofText (name ++ ":[* TO *]")).withFacet
    { fields := [name], pivotFields := [name ++ "," ++ version] }

theorem contentTypeQuery?_eq_none {schema : Schema}
    (h : schema.contentField? Metacard.contentTypeAttribute = none ∨
      schema.contentField? Metacard.contentVersionAttribute = none) :
    contentTypeQuery? schema = none := by
  unfold Schema.contentField? at h
  unfold contentTypeQuery?
  rcases h with h | h
  · simp [h]
  · simp only [h]
    cases schema.field? Metacard.contentTypeAttribute .string true .empty <;> rfl

theorem contentTypeQuery?_eq_some {schema : Schema} {name version : String}
    (hname : schema.contentField? Metacard.contentTypeAttribute = some name)
    (hversion : schema.contentField? Metacard.contentVersionAttribute = some version) :
    contentTypeQuery? schema = some (.ofContentFields name version) := by
  unfold Schema.contentField? at hname hversion
  unfold contentTypeQuery?
  simp only [hname, hversion]
  rfl

namespace Service

/-- How the content types are found: the queries that are asked, and the types. -/
inductive Discovers (svc : Service) (s : Session) : List EngineQuery → List ContentType → Prop where
  /-- The schema has no field for the names, or none for the versions: nothing is asked. -/
  | noField (h : svc.schema.contentField? Metacard.contentTypeAttribute = none ∨
      svc.schema.contentField? Metacard.contentVersionAttribute = none) : Discovers svc s [] []
  /-- The engine fails. -/
  | failed {name version reason : String}
    (hname : svc.schema.contentField? Metacard.contentTypeAttribute = some name)
    (hversion : svc.schema.contentField? Metacard.contentVersionAttribute = some version)
    (hreply : s.reply 0 = .error reason) : Discovers svc s [.ofContentFields name version] []
  /-- The engine answers. -/
  | answered {name version : String} {r : EngineResponse} {types : List ContentType}
    (hname : svc.schema.contentField? Metacard.contentTypeAttribute = some name)
    (hversion : svc.schema.contentField? Metacard.contentVersionAttribute = some version)
    (hreply : s.reply 0 = .ok r) (htypes : ContentType.IsSetOf types r.Lists) :
    Discovers svc s [.ofContentFields name version] types

theorem contentTypes_of_noQuery {svc : Service} (h : contentTypeQuery? svc.schema = none)
    (s : Session) : svc.contentTypes.Runs s [] (.ok []) := by
  have hrun : svc.contentTypes = pure [] := by
    unfold contentTypes
    rw [h]
  rw [hrun]
  exact ServiceM.runs_pure [] s

/-- What is made of the reply: a failure is taken for an answer without types. -/
theorem contentTypes_of_query {svc : Service} {q : EngineQuery}
    (h : contentTypeQuery? svc.schema = some q) (s : Session) :
    svc.contentTypes.Runs s [q]
      (.ok (match s.reply 0 with
        | .ok r => r.contentTypes
        | .error _ => [])) := by
  obtain ⟨hreply, hasks⟩ := Session.ask_asks q s
  have hrun : svc.contentTypes.run s =
      (.ok (match (Session.ask q s).1 with
        | .ok r => r.contentTypes
        | .error _ => []), (Session.ask q s).2) := by
    unfold contentTypes ExceptT.run
    rw [h]
    dsimp only
    cases Session.ask q s with
    | mk reply after => cases reply <;> rfl
  constructor
  · rw [hrun, hreply]
  · rw [hrun]
    exact hasks

/-- **Content types.** They are always found, by one query or by none: none without the fields, and
none from an engine that fails; else they are the set that the answer tells of. Alike answers tell
of the same types. -/
theorem contentTypes_discovered (svc : Service) (s : Session) :
    (∃ asked types, svc.contentTypes.Runs s asked (.ok types) ∧ svc.Discovers s asked types) ∧
      ∀ (s' : Session) (r r' : EngineResponse), s.reply 0 = .ok r → s'.reply 0 = .ok r' →
        r.Alike r' → (svc.contentTypes.run s').1 = (svc.contentTypes.run s).1 := by
  have hnone : svc.schema.contentField? Metacard.contentTypeAttribute = none ∨
      svc.schema.contentField? Metacard.contentVersionAttribute = none →
      (∃ asked types, svc.contentTypes.Runs s asked (.ok types) ∧ svc.Discovers s asked types) ∧
        ∀ s' : Session, (svc.contentTypes.run s').1 = (svc.contentTypes.run s).1 := by
    intro h
    have hruns := contentTypes_of_noQuery (contentTypeQuery?_eq_none h)
    exact ⟨⟨[], [], hruns s, .noField h⟩, fun s' => (hruns s').outcome.trans (hruns s).outcome.symm⟩
  cases hname : svc.schema.contentField? Metacard.contentTypeAttribute with
  | none => exact (hnone (.inl hname)).imp_right fun h s' _ _ _ _ _ => h s'
  | some name =>
    cases hversion : svc.schema.contentField? Metacard.contentVersionAttribute with
    | none => exact (hnone (.inr hversion)).imp_right fun h s' _ _ _ _ _ => h s'
    | some version =>
      have hruns := contentTypes_of_query (contentTypeQuery?_eq_some hname hversion)
      constructor
      · cases hreply : s.reply 0 with
        | error reason =>
          refine ⟨_, [], ?_, .failed hname hversion hreply⟩
          simpa only [hreply] using hruns s
        | ok r =>
          refine ⟨_, r.contentTypes, ?_, .answered hname hversion hreply r.contentTypes_isSetOf⟩
          simpa only [hreply] using hruns s
      · intro s' r r' hreply hreply' halike
        rw [(hruns s').outcome, (hruns s).outcome, hreply, hreply']
        exact congrArg Except.ok (EngineResponse.contentTypes_of_alike halike)

/-- A service whose schema knows both attributes of a content type. -/
def typedService : Service where
  schema := ((Resource.schema.register Metacard.contentTypeAttribute .string).register
    Metacard.contentVersionAttribute .string).schema

/-- An answer with two versions of one type, a number for the name of another, and an empty nested
count, so that the flat counts are taken too. -/
def countedOnce : EngineResponse where
  facetFields := [⟨"type", [⟨"report", 3⟩, ⟨"note", 1⟩]⟩]
  facetPivots :=
    [("type,version",
      [.mk "type" (.str "report") 3
        [.mk "version" (.str "2") 2 [.mk "year" (.int 1999) 2 []], .mk "version" (.str "1") 1 []],
        .mk "type" (.int 7) 1 []]),
      ("type", [])]

/-- The same values in another order, some of them twice, with other counts. -/
def countedTwice : EngineResponse where
  facetFields := [⟨"type", [⟨"note", 2⟩, ⟨"report", 6⟩, ⟨"note", 1⟩]⟩]
  facetPivots :=
    [("type", []),
      ("type,version",
        [.mk "type" (.int 7) 2 [],
          .mk "type" (.str "report") 6
            [.mk "version" (.str "1") 1 [], .mk "version" (.str "2") 4 [],
              .mk "version" (.str "1") 1 []]]),
      ("type", [])]

theorem contentTypes_discovered_counted :
    Session.reply { script := [.respond countedOnce] } 0 = .ok countedOnce ∧
      Session.reply { script := [.respond countedTwice] } 0 = .ok countedTwice ∧
      countedOnce.Alike countedTwice ∧
      (typedService.contentTypes.run { script := [.respond countedTwice] }).1 =
        .ok [⟨"7", none⟩, ⟨"note", none⟩, ⟨"report", none⟩, ⟨"report", some "1"⟩,
          ⟨"report", some "2"⟩] := by
  have halike : countedOnce.Alike countedTwice := by decide
  have hsame := (contentTypes_discovered typedService { script := [.respond countedOnce] }).2
    { script := [.respond countedTwice] } countedOnce countedTwice rfl rfl halike
  exact ⟨rfl, rfl, halike, hsame.trans (by rfl)⟩

end Service

end CatalogSearch
