import CatalogSearch.Config.File
import CatalogSearch.Proofs.Batches
import CatalogSearch.Proofs.Text.Blank
import CatalogSearch.Visibility
import Mathlib.Data.List.Forall2

/-!
# Normalized settings

The names of the prompt types are trimmed and kept once each, and nothing else of the settings is
changed. So it is nothing to writes how a file spells the names out.

- `Respelled`: lists of names that differ by blanks, empty names, order or repetition only.
- `Config.promptTypes_normalize`: the names that are kept.
- `Config.isPrompt_normalize_iff`: the types that are prompt then.
- `Config.Normalizes`: what becomes of settings when they are normalized.
- `Config.ofFile_eq_ok_iff`: the settings that a file gives.
- `Config.ofFile_normalizes`: they are normalized and valid, however the names are spelled out.
-/

namespace CatalogSearch

/-- Lists of names that differ by blanks around names, by empty names, by their order, or by
repetition only. -/
inductive Respelled : List String → List String → Prop where
  /-- Two names that are the same without the blanks around them. -/
  | blanks {name other part : String} (h : Text.IsTrimOf name part) (h' : Text.IsTrimOf other part)
    (names : List String) : Respelled (name :: names) (other :: names)
  /-- A name that is empty, or blank. -/
  | empty {name : String} (h : Text.IsTrimOf name "") (names : List String) :
    Respelled (name :: names) names
  /-- The same names in another order. -/
  | order {names others : List String} (h : names.Perm others) : Respelled names others
  /-- A name once more. -/
  | repetition {name : String} {names : List String} (h : name ∈ names) :
    Respelled (name :: names) names
  | symm {names others : List String} (h : Respelled names others) : Respelled others names
  | trans {names others more : List String} (h : Respelled names others)
    (h' : Respelled others more) : Respelled names more

/-- The same types are named by lists that differ in spelling only. -/
theorem Respelled.exists_isTrimOf_iff {names others : List String} (h : Respelled names others)
    {type : String} (hne : type ≠ "") :
    (∃ name ∈ names, Text.IsTrimOf name type) ↔ ∃ name ∈ others, Text.IsTrimOf name type := by
  induction h with
  | blanks h h' names =>
    have hsame : ∀ name part, Text.IsTrimOf name part →
        (Text.IsTrimOf name type ↔ part = type) := by
      intro name part hpart
      rw [← Text.trim_eq_iff, hpart.trim_eq]
    simp [hsame _ _ h, hsame _ _ h']
  | empty h names =>
    have hnot : ∀ name, Text.IsTrimOf name "" → ¬ Text.IsTrimOf name type :=
      fun name hempty htype => hne (htype.trim_eq.symm.trans hempty.trim_eq)
    simp [hnot _ h]
  | order h => exact exists_congr fun name => and_congr_left' h.mem_iff
  | @repetition name names h =>
    constructor
    · rintro ⟨other, hother, htype⟩
      rcases List.mem_cons.mp hother with rfl | hother
      · exact ⟨other, h, htype⟩
      · exact ⟨other, hother, htype⟩
    · rintro ⟨other, hother, htype⟩
      exact ⟨other, List.mem_cons_of_mem _ hother, htype⟩
  | symm _ ih => exact ih.symm
  | trans _ _ ih ih' => exact ih.trans ih'

namespace Config

/-! ## The names that are kept -/

/-- The names without the blanks around them, but for the empty ones. -/
def typeNames (names : List String) : List String :=
  (names.map Text.trim).filter (· ≠ "")

/-- A name is added without its blanks, unless it is empty or known. -/
theorem foldl_addName (known names : List String) :
    names.foldl addName known = (typeNames names).foldl addNew known := by
  induction names generalizing known with
  | nil => simp [typeNames]
  | cons name names ih =>
    rw [List.foldl_cons, ih]
    by_cases hempty : Text.trim name = ""
    · have hadd : addName known name = known := by simp [addName, hempty]
      have hnames : typeNames (name :: names) = typeNames names := by simp [typeNames, hempty]
      rw [hadd, hnames]
    · have hadd : addName known name = addNew known (Text.trim name) := by
        simp [addName, addNew, hempty]
      have hnames : typeNames (name :: names) = Text.trim name :: typeNames names := by
        simp [typeNames, hempty]
      rw [hadd, hnames, List.foldl_cons]

/-- The names are kept once each, at their first places. -/
theorem promptTypes_normalize (c : Config) :
    c.normalize.commit.promptTypes = distinct (typeNames c.commit.promptTypes) := by
  show c.commit.promptTypes.foldl addName [] = _
  rw [foldl_addName, foldl_addNew, List.nil_append]
  rfl

theorem mem_typeNames_iff {names : List String} {type : String} :
    type ∈ typeNames names ↔ type ≠ "" ∧ ∃ name ∈ names, Text.IsTrimOf name type := by
  simp only [typeNames, List.mem_filter, List.mem_map, Text.trim_eq_iff, decide_eq_true_iff]
  exact and_comm

/-- Names that are kept are trimmed already, and none is empty. -/
theorem typeNames_eq_self {names : List String} (h : ∀ name ∈ names, name ∈ typeNames names) :
    typeNames names = names := by
  have htrim : names.map Text.trim = names := by
    refine (List.map_congr_left fun name hname => ?_).trans (List.map_id names)
    obtain ⟨-, other, -, hother⟩ := mem_typeNames_iff.mp (h name hname)
    exact hother.self.trim_eq
  rw [typeNames, htrim]
  exact List.filter_eq_self.mpr fun name hname =>
    decide_eq_true (mem_typeNames_iff.mp (h name hname)).1

/-- A type is prompt after the settings are normalized iff some name is that of the type, but for
blanks around it. -/
theorem isPrompt_normalize_iff {c : Config} {type : String} :
    c.normalize.commit.isPrompt type = true ↔
      type ≠ "" ∧ ∃ name ∈ c.commit.promptTypes, Text.IsTrimOf name type := by
  rw [CommitConfig.isPrompt, List.contains_iff_mem, promptTypes_normalize,
    (isDistinct_distinct _).mem_iff, mem_typeNames_iff]

/-- Settings that are normalized stay as they are. -/
theorem normalize_normalize (c : Config) : c.normalize.normalize = c.normalize := by
  have hkept : typeNames c.normalize.commit.promptTypes = c.normalize.commit.promptTypes := by
    refine typeNames_eq_self fun name hname => ?_
    have hprompt := isPrompt_normalize_iff.mp (List.contains_iff_mem.mpr hname)
    obtain ⟨hne, other, -, hother⟩ := hprompt
    exact mem_typeNames_iff.mpr ⟨hne, name, hname, hother.self⟩
  have hnames : c.normalize.normalize.commit.promptTypes = c.normalize.commit.promptTypes := by
    rw [promptTypes_normalize c.normalize, hkept, promptTypes_normalize, distinct_distinct]
  exact congrArg
    (fun names => { c with commit := { c.commit with promptTypes := names } }) hnames

/-- Nothing that is checked is changed. -/
theorem fault?_normalize (c : Config) : c.normalize.fault? = c.fault? :=
  rfl

/-- Every name is left without the blanks around it. -/
theorem forall₂_isTrimOf (names : List String) :
    List.Forall₂ Text.IsTrimOf names (names.map Text.trim) := by
  rw [List.forall₂_map_right_iff]
  exact List.forall₂_same.mpr fun name _ => Text.isTrimOf_trim name

/-- What becomes of settings when they are normalized. -/
structure Normalizes (c normal : Config) : Prop where
  /-- The settings of searches stay. -/
  search : normal.search = c.search
  /-- So does the time of prompt types. -/
  promptWithin : normal.commit.promptWithin = c.commit.promptWithin
  /-- Their names are left without blanks around them, but for the empty ones, once each, in the
  order of their first places. -/
  names : ∃ trimmed, List.Forall₂ Text.IsTrimOf c.commit.promptTypes trimmed ∧
    IsDistinct (trimmed.filter (· ≠ "")) normal.commit.promptTypes
  /-- The types that are prompt then are those that some name is left as. -/
  isPrompt_iff : ∀ type, normal.commit.isPrompt type = true ↔
    type ≠ "" ∧ ∃ name ∈ c.commit.promptTypes, Text.IsTrimOf name type
  /-- Names that are spelled out in another way give the same types. -/
  spelling : ∀ other : Config, Respelled c.commit.promptTypes other.commit.promptTypes →
    ∀ type, other.normalize.commit.isPrompt type = normal.commit.isPrompt type
  /-- Normalized again they stay as they are. -/
  stable : normal.normalize = normal
  /-- They can be used iff they could before, and else the same setting is at fault. -/
  fault : normal.fault? = c.fault?

theorem isPrompt_normalize_of_respelled {c other : Config}
    (h : Respelled c.commit.promptTypes other.commit.promptTypes) (type : String) :
    other.normalize.commit.isPrompt type = c.normalize.commit.isPrompt type := by
  rw [Bool.eq_iff_iff, isPrompt_normalize_iff, isPrompt_normalize_iff]
  exact and_congr_right fun hne => (h.exists_isTrimOf_iff hne).symm

theorem normalize_normalizes (c : Config) : c.Normalizes c.normalize where
  search := rfl
  promptWithin := rfl
  names := by
    refine ⟨_, forall₂_isTrimOf c.commit.promptTypes, ?_⟩
    rw [promptTypes_normalize]
    exact isDistinct_distinct _
  isPrompt_iff _ := isPrompt_normalize_iff
  spelling _ := isPrompt_normalize_of_respelled
  stable := normalize_normalize c
  fault := fault?_normalize c

/-! ## Files -/

/-- The settings that a file spells out. -/
def spelled? (file : Option ByteArray) : Option Config :=
  (file.bind String.fromUTF8?).bind ofText?

/-- A file gives the settings that it spells out, normalized, if they can be used. -/
theorem ofFile_eq_ok_iff {file : Option ByteArray} {loaded : Config} :
    ofFile file = .ok loaded ↔
      ∃ c, spelled? file = some c ∧ c.fault? = none ∧ loaded = c.normalize := by
  unfold ofFile spelled?
  cases file.bind String.fromUTF8? with
  | none => simp
  | some text =>
    dsimp only [Option.bind_some]
    unfold ofText
    cases ofText? text with
    | none => simp
    | some c =>
      dsimp only
      unfold validated
      rw [fault?_normalize]
      cases hfault : c.fault? with
      | some fault => simp [hfault]
      | none => simp [hfault, eq_comm]

/-- Settings of the same types and of the same time make the records of a write visible alike. -/
theorem visibility_congr {c other : CommitConfig} (htime : other.promptWithin = c.promptWithin)
    (htypes : ∀ type, other.isPrompt type = c.isPrompt type) (records : List Metacard)
    (force : Bool) : Visibility.of other records force = Visibility.of c records force := by
  simp only [Visibility.of, htime, htypes]

/-- Two settings that differ in the spelling of the names only. -/
structure DiffersInSpelling (c other : Config) : Prop where
  search : other.search = c.search
  promptWithin : other.commit.promptWithin = c.commit.promptWithin
  names : Respelled c.commit.promptTypes other.commit.promptTypes

/-- Settings that differ in spelling only have the same faults. -/
theorem DiffersInSpelling.fault?_eq {c other : Config} (h : c.DiffersInSpelling other) :
    other.fault? = c.fault? := by
  simp only [fault?, h.search, h.promptWithin]

/-- **Normalized settings.** Normalizing trims the names of the prompt types and keeps each once.
What a file gives is normalized and can be used, and files that differ only in how they spell the
names make the same records visible at the same time. -/
theorem ofFile_normalizes :
    (∀ c : Config, c.Normalizes c.normalize) ∧
    (∀ file loaded, ofFile file = .ok loaded →
      (∃ c, spelled? file = some c ∧ c.Normalizes loaded) ∧
        loaded.normalize = loaded ∧ loaded.validated = .ok loaded) ∧
    ∀ file file' c c' loaded, spelled? file = some c → spelled? file' = some c' →
      c.DiffersInSpelling c' → ofFile file = .ok loaded →
        ∃ loaded', ofFile file' = .ok loaded' ∧
          ∀ records force, Visibility.of loaded'.commit records force =
            Visibility.of loaded.commit records force := by
  refine ⟨normalize_normalizes, fun file loaded h => ?_, ?_⟩
  · obtain ⟨c, hc, hfault, rfl⟩ := ofFile_eq_ok_iff.mp h
    refine ⟨⟨c, hc, normalize_normalizes c⟩, normalize_normalize c, ?_⟩
    rw [validated, fault?_normalize, hfault]
  · intro file file' c c' loaded hc hc' hdiffers h
    obtain ⟨c, hfirst, hfault, rfl⟩ := ofFile_eq_ok_iff.mp h
    obtain rfl := Option.some.inj (hc.symm.trans hfirst)
    have hfault' : c'.fault? = none := hdiffers.fault?_eq.trans hfault
    refine ⟨c'.normalize, ofFile_eq_ok_iff.mpr ⟨c', hc', hfault', rfl⟩, fun records force => ?_⟩
    refine visibility_congr ?_ ?_ records force
    · exact hdiffers.promptWithin
    · exact isPrompt_normalize_of_respelled hdiffers.names

/-- A file with these names for the prompt types. -/
def fileWithTypes (names : String) : Option ByteArray :=
  some ("[commit]\nnrt_metacard_types = [" ++ names ++ "]\n").toUTF8

/-- Two files that spell the same types out, and the settings that they spell. -/
def looseFile : Option ByteArray := fileWithTypes "\" note \", \"\", \"event\", \"note\""
def tidyFile : Option ByteArray := fileWithTypes "\"event\", \"note\""
def looseConfig : Config := { commit := { promptTypes := [" note ", "", "event", "note"] } }
def tidyConfig : Config := { commit := { promptTypes := ["event", "note"] } }

theorem looseConfig_differsInSpelling : looseConfig.DiffersInSpelling tidyConfig where
  search := rfl
  promptWithin := rfl
  names := by
    have hnote : Text.IsTrimOf " note " "note" := Text.trim_eq_iff.mp (by decide)
    have hnothing : Text.IsTrimOf "" "" := Text.trim_eq_iff.mp (by decide)
    have hblanks : Respelled [" note ", "", "event", "note"] ["note", "", "event", "note"] :=
      .blanks hnote hnote.self _
    have hempty : Respelled ["", "note", "event", "note"] ["note", "event", "note"] :=
      .empty hnothing _
    have hagain : Respelled ["note", "event", "note"] ["event", "note"] :=
      .repetition (by decide)
    exact (hblanks.trans (.order (List.Perm.swap ..))).trans (hempty.trans hagain)

/-- Blanks, an empty name, another order and a name once more are nothing to what is loaded. -/
theorem ofFile_normalizes_loose :
    ∃ loaded loaded', ofFile looseFile = .ok loaded ∧ ofFile tidyFile = .ok loaded' ∧
      loaded.commit.promptTypes = ["note", "event"] ∧ loaded.validated = .ok loaded ∧
      ∀ records force, Visibility.of loaded'.commit records force =
        Visibility.of loaded.commit records force := by
  obtain ⟨-, hloads, hrespelled⟩ := ofFile_normalizes
  have hloose : spelled? looseFile = some looseConfig := by decide +kernel
  have htidy : spelled? tidyFile = some tidyConfig := by decide +kernel
  have hload : ofFile looseFile = .ok looseConfig.normalize :=
    ofFile_eq_ok_iff.mpr ⟨looseConfig, hloose, rfl, rfl⟩
  obtain ⟨-, -, hvalid⟩ := hloads looseFile _ hload
  obtain ⟨loaded', hload', hvisible⟩ := hrespelled looseFile tidyFile looseConfig tidyConfig _
    hloose htidy looseConfig_differsInSpelling hload
  exact ⟨_, loaded', hload, hload', by decide, hvalid, hvisible⟩

end Config

end CatalogSearch
