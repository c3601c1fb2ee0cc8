/-
# Settings

Where named templates and components are found: each in a folder of its own,
under its name and one extension.  `Settings.check` refuses an extension that
does not start with a dot, that is nothing but the dot, or that has a slash; the
folders may be any text.
-/

import BracketTemplate.SourcePath

namespace BracketTemplate

/-- The folders of templates and components, and the extension of both. -/
structure Settings where
  templatesRoot : String := "templates"
  componentsRoot : String := "components"
  extension : String := ".html"
  deriving DecidableEq, Repr, Inhabited

/-- Why settings are refused. -/
inductive SettingsError where
  /-- The text of the settings cannot be read, or does not have the right form. -/
  | unreadable (reason : String)
  /-- A field has a value that cannot be used. -/
  | invalid (field reason : String)
  deriving DecidableEq, Repr, Inhabited

namespace SettingsError

/-- What is said about the settings. -/
def message : SettingsError → String
  | .unreadable reason => "CONFIG_PARSE_ERROR: " ++ reason
  | .invalid field reason => s!"CONFIG_INVALID_VALUE: {field}: {reason}"

end SettingsError

namespace Settings

/-- The path of a template. -/
def templatePath (settings : Settings) (name : String) : String :=
  SourcePath.join settings.templatesRoot (SourcePath.fileName name settings.extension)

/-- The path of a component. -/
def componentPath (settings : Settings) (name : String) : String :=
  SourcePath.join settings.componentsRoot (SourcePath.fileName name settings.extension)

/-- Why the extension cannot be used, if it cannot. -/
def extensionFault? (extension : String) : Option String :=
  match extension.toList with
  | '.' :: _ :: _ =>
    if '/' ∈ extension.toList then some s!"'{extension}' must not contain a path separator"
    else none
  | _ => some s!"'{extension}' must start with '.' followed by a name"

/-- Refuses settings that a render cannot work with. -/
def check (settings : Settings) : Except SettingsError Unit :=
  match extensionFault? settings.extension with
  | some reason => .error (.invalid "paths.file_extension" reason)
  | none => .ok ()

end Settings

end BracketTemplate
