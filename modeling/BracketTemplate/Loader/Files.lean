/-
# Sources that are files

The sources of a render can be files below a folder.  Failures name the file,
not the path of the source.
-/

import BracketTemplate.FileTree
import BracketTemplate.Loader

namespace BracketTemplate

namespace Loader

/-- Where the file with a source is, below a folder: a path that starts with a
slash stands for itself, and so does every path below the folder without a name. -/
def locate (base path : String) : String :=
  if path.toList.head? = some '/' ∨ base = "" then path
  else if base.toList.getLast? = some '/' then base ++ path
  else base ++ "/" ++ path

/-- The loader of sources that are files below a folder. -/
def ofFiles (read : String → Except FileFault String) (base : String) : Loader := fun path =>
  match read (locate base path) with
  | .ok text => .ok text
  | .error fault => .error (.sourceUnavailable (locate base path) fault.message)

end Loader

end BracketTemplate
