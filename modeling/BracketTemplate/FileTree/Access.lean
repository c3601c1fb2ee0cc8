/-
# Reading and writing files

What a program may do with a file tree: `read` the text of a file and `write` a
file, in a folder that is there.  A file that is written replaces the one before
as a whole, and nothing else changes.  A device that is written changes nothing in
the tree.

| path leads to | `read` | `write` |
| --- | --- | --- |
| a text file | its text | replaces it |
| another file | refused, not valid UTF-8 | replaces it |
| a device | what comes of it | leaves the tree as it is |
| a folder | refused | refused |
| nothing, in a folder that is there | refused | makes it |
| nothing, in a folder that is not there | refused | refused |

A slash at the end asks for a folder, which is neither read nor written.
-/

import BracketTemplate.FileTree.Route

namespace BracketTemplate

namespace FileTree

/-- The text of the file at a path. -/
def read (tree : FileTree) (path : String) : Except FileFault String := do
  let r ← Route.ofText path
  let names ← tree.walk (tree.origin r) (r.steps ++ if r.slashAtEnd then [.here] else [])
  match tree.node? names with
  | some (.file text) => return text
  | some .binary => .error .notText
  | some (.device content _) => content
  | some (.folder _) => .error .isAFolder
  | none => .error .notFound

/-- What can be written: the file under some names, or a device. -/
inductive Target where
  | file (names : List String)
  | device (sink : Sink)
  deriving DecidableEq, Repr

/-- What is written at a path. -/
def target (tree : FileTree) (path : String) : Except FileFault Target := do
  let r ← Route.ofText path
  let names ← tree.walk (tree.origin r) r.steps.dropLast
  match r.steps.getLast? with
  | none => .error .isAFolder
  | some (.name s) =>
    let _ ← tree.walkStep names .here
    if r.slashAtEnd then .error .isAFolder
    else if maxNameSize < s.utf8ByteSize then .error .nameTooLong
    else
      match tree.node? (names ++ [s]) with
      | some (.folder _) => .error .isAFolder
      | some (.device _ sink) => return .device sink
      | _ => return .file (names ++ [s])
  | some s =>
    let _ ← tree.walkStep names s
    .error .isAFolder

/-- The tree with a text written to the target. -/
def writeTo (tree : FileTree) (text : String) : Target → FileTree
  | .file names => tree.put names (.file text)
  | .device _ => tree

/-- The tree with a text written at a path. -/
def write (tree : FileTree) (path text : String) : Except FileFault FileTree := do
  return tree.writeTo text (← tree.target path)

end FileTree

end BracketTemplate
