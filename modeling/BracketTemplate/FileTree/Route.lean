/-
# Paths through a file tree

A path is a list of steps between slashes: a name, `..` for the folder above and
`.` for the folder itself.  Empty steps do not count, except that a slash at the
end asks for a folder.  Every step starts from a folder, so `x/..` leads nowhere
unless `x` is a folder.

A path that begins with a slash starts in the folder above all others, and any
other path in the working directory.  Above that first folder is the folder itself.
-/

import BracketTemplate.FileTree

namespace BracketTemplate

namespace FileTree

/-- One step of a path. -/
inductive Step where
  | name (s : String)
  | here
  | up
  deriving DecidableEq, Repr, Inhabited

/-- A path, taken apart. -/
structure Route where
  absolute : Bool
  steps : List Step
  /-- Whether a slash stands at the end. -/
  slashAtEnd : Bool
  deriving DecidableEq, Repr, Inhabited

/-- The longest name, in bytes. -/
def maxNameSize : Nat := 255

/-- The longest path, in bytes. -/
def maxPathSize : Nat := 4095

/-- One step as it is written, unless it is empty. -/
def Step.ofText? (s : List Char) : Option Step :=
  if s = [] then none
  else if s = ['.'] then some .here
  else if s = ['.', '.'] then some .up
  else some (.name (String.ofList s))

/-- Takes a path apart. -/
def Route.ofText (path : String) : Except FileFault Route :=
  if path.toList.contains '\x00' then .error .nulInPath
  else if path = "" then .error .notFound
  else if maxPathSize < path.utf8ByteSize then .error .nameTooLong
  else
    .ok {
      absolute := path.toList.head? = some '/'
      steps := (path.toList.splitOn '/').filterMap Step.ofText?
      slashAtEnd := path.toList.getLast? = some '/' }

/-- Takes one step from the end of some names. -/
def walkStep (tree : FileTree) (names : List String) (s : Step) :
    Except FileFault (List String) :=
  match tree.node? names with
  | none => .error .notFound
  | some (.file _) | some .binary | some (.device ..) => .error .notAFolder
  | some (.folder entries) =>
    match s with
    | .here => .ok names
    | .up => .ok names.dropLast
    | .name s =>
      if maxNameSize < s.utf8ByteSize then .error .nameTooLong
      else
        match Entries.find? s entries with
        | some _ => .ok (names ++ [s])
        | none => .error .notFound

/-- Takes some steps from the end of some names. -/
def walk (tree : FileTree) (names : List String) (steps : List Step) :
    Except FileFault (List String) :=
  steps.foldlM (walkStep tree) names

/-- The names of the folder in which a route starts. -/
def origin (tree : FileTree) (r : Route) : List String := if r.absolute then [] else tree.folder

end FileTree

end BracketTemplate
