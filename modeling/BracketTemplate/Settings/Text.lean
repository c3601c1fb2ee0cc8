/-
# Settings as text

Settings are kept as TOML, in a table `paths`, in whatever way TOML is read and
written (`Toml.Format`).  `Settings.ofText` reads them: what is not given has its
default, and other entries are ignored.

| `paths` | settings |
| --- | --- |
| absent | all by default |
| a table | each under its name |
| an array | one after another, without names |
| a moment | all by default, as a moment has none of the names |
| anything else | refused |

`Settings.toText` writes them all, as the table that `Settings.toToml` says.
-/

import BracketTemplate.Settings
import BracketTemplate.Toml.Format

namespace BracketTemplate

namespace Settings

/-- The failure of a document that has values of other kinds. -/
def malformed : SettingsError := .unreadable "TOML parse error"

/-- One of the settings, which is a string. -/
def setting (default : String) : Option Toml → Except SettingsError String
  | none => .ok default
  | some (.string s) => .ok s
  | some _ => .error malformed

/-- The settings that are given by three optional values. -/
def ofValues (templatesRoot componentsRoot extension : Option Toml) :
    Except SettingsError Settings := do
  let byDefault : Settings := {}
  let templatesRoot ← setting byDefault.templatesRoot templatesRoot
  let componentsRoot ← setting byDefault.componentsRoot componentsRoot
  let extension ← setting byDefault.extension extension
  return ⟨templatesRoot, componentsRoot, extension⟩

/-- The settings of a TOML table. -/
def ofToml (entries : List (String × Toml)) : Except SettingsError Settings :=
  match Entries.find? "paths" entries with
  | none | some (.moment _) => .ok {}
  | some (.table paths) =>
    ofValues (Entries.find? "templates_root" paths) (Entries.find? "components_root" paths)
      (Entries.find? "file_extension" paths)
  | some (.array items) => ofValues items[0]? items[1]? items[2]?
  | some _ => .error malformed

/-- Reads settings and refuses those that cannot be used. -/
def ofText (format : Toml.Format) (text : String) : Except SettingsError Settings := do
  let entries ← (format.read text).mapError .unreadable
  let settings ← ofToml entries
  settings.check
  return settings

/-- The document of settings. -/
def toToml (settings : Settings) : List (String × Toml) :=
  [("paths", .table
    [("templates_root", .string settings.templatesRoot),
      ("components_root", .string settings.componentsRoot),
      ("file_extension", .string settings.extension)])]

/-- The text of settings. -/
def toText (format : Toml.Format) (settings : Settings) : Except SettingsError String :=
  (format.write settings.toToml).mapError .unreadable

end Settings

end BracketTemplate
