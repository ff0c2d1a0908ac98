import CatalogSearch.Config.Form
import CatalogSearch.Toml.Reader

/-!
# Configuration files

- `ConfigError`: why a file gives no settings.
- `Config.validated`: settings that can be used.
- `Config.ofToml?`: the settings in the values of a file. What a section lists beyond its settings
  is not looked at.
- `Config.ofFile`: the settings in the bytes of a file, normalized and validated.
-/

namespace CatalogSearch

/-- Why a file gives no settings. -/
inductive ConfigError where
  /-- There is no file, or it is not a text. -/
  | unreadable
  /-- The text is not TOML, or its values are not settings. -/
  | malformed
  /-- A setting cannot be used. -/
  | unusable (fault : Config.Fault)
  deriving DecidableEq

namespace Config

/-- The settings themselves, if all can be used. -/
def validated (c : Config) : Except ConfigError Config :=
  match c.fault? with
  | some fault => .error (.unusable fault)
  | none => .ok c

/-- The sections, with how many settings each has. -/
def sections : List (String × Nat) := [("search", 4), ("commit", 2)]

/-- The values of a file without what its sections list beyond their settings. -/
def withoutSurplus : Toml.Value → Toml.Value
  | .table entries =>
    .table (entries.map fun (name, v) =>
      match KeyMap.lookup name sections with
      | some count => (name, v.take count)
      | none => (name, v))
  | v => v

/-- The settings in the values of a file. -/
def ofToml? (file : Toml.Value) : Option Config :=
  (withoutSurplus file).toJson?.bind ofJson?

/-- The settings that a text spells out. -/
def ofText? (text : String) : Option Config :=
  (Toml.parse? text).bind ofToml?

/-- The settings in a text, normalized and validated. -/
def ofText (text : String) : Except ConfigError Config :=
  match ofText? text with
  | none => .error .malformed
  | some c => c.normalize.validated

/-- The settings in the bytes of a file, or of none if there is no file (`load`). -/
def ofFile (bytes : Option ByteArray) : Except ConfigError Config :=
  match bytes.bind String.fromUTF8? with
  | none => .error .unreadable
  | some text => ofText text

end Config

end CatalogSearch
