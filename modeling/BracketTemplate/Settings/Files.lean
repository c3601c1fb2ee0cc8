/-
# Settings in files

`Settings.ofFile` reads the settings that a file holds and refuses those that
cannot be used.  `Settings.toFile` writes a file and does not look at what it
writes, so settings that are refused can be written.
-/

import BracketTemplate.Failure
import BracketTemplate.FileTree.Access
import BracketTemplate.Settings.Text

namespace BracketTemplate

namespace Settings

variable (format : Toml.Format)

/-- The settings in a file, of which `content` has been read. -/
def ofContent : Except FileFault String → Except SettingsError Settings
  | .ok text => ofText format text
  | .error fault => .error (.unreadable fault.message)

/-- The settings in the file at a path. -/
def ofFile (tree : FileTree) (path : String) : Except SettingsError Settings :=
  ofContent format (tree.read path)

/-- The tree with settings written to the file at a path. -/
def toFile (settings : Settings) (tree : FileTree) (path : String) :
    Except Failure FileTree := do
  let text ← (settings.toText format).mapError .settings
  (tree.write path text).mapError fun fault => .write fault.message

end Settings

end BracketTemplate
