/-
# File trees

The files of a system, as a value: a folder holds files and folders under their
names, in name order, and one of the folders is the working directory.  A file is a
text, or it is not valid UTF-8 and then no text can be read from it.  There are no
links: what is in one folder is in no other one.

A device has its place in a folder as a file has, but keeps nothing: what is
written to it goes where its `Sink` says.  The standard output of the program is
such a device.

`put` lays out a tree and makes the folders that it needs; what a program may
do, which is refused when a folder is missing, is in
`BracketTemplate.FileTree.Access`.
-/

import BracketTemplate.Entries

namespace BracketTemplate

/-- Why a file cannot be read or written. -/
inductive FileFault where
  | notFound
  | notAFolder
  | isAFolder
  | nameTooLong
  /-- The path has a character that no path may have. -/
  | nulInPath
  /-- The file is not valid UTF-8. -/
  | notText
  /-- Another fault, in the words of the operating system. -/
  | other (reason : String)
  deriving DecidableEq, Repr, Inhabited

namespace FileFault

/-- What is said about a fault. -/
def message : FileFault → String
  | .notFound => "No such file or directory (os error 2)"
  | .notAFolder => "Not a directory (os error 20)"
  | .isAFolder => "Is a directory (os error 21)"
  | .nameTooLong => "File name too long (os error 36)"
  | .nulInPath => "file name contained an unexpected NUL byte"
  | .notText => "stream did not contain valid UTF-8"
  | .other reason => reason

/-- The fault with a number, and words for one that has none here. -/
def ofCode (code : Nat) (words : String) : FileFault :=
  match code with
  | 2 => .notFound
  | 20 => .notAFolder
  | 21 => .isAFolder
  | 36 => .nameTooLong
  | _ => .other s!"{words} (os error {code})"

/-- Whether the fault says that there is nothing at the path. -/
def isAbsence : FileFault → Bool
  | .notFound | .notAFolder | .nameTooLong => true
  | _ => false

end FileFault

/-- Where a text goes that is written to a device. -/
inductive Sink where
  /-- It is gone. -/
  | nowhere
  /-- It is on the standard output of the program. -/
  | stdout
  /-- It is on the standard error of the program. -/
  | stderr
  deriving DecidableEq, Repr, Inhabited

/-- A file, a device or a folder. -/
inductive FileNode where
  | file (text : String)
  /-- A file that is not valid UTF-8. -/
  | binary
  /-- A device, and what comes of reading it. -/
  | device (content : Except FileFault String) (sink : Sink)
  | folder (entries : List (String × FileNode))
  deriving Inhabited

/-- The files and folders of a system. -/
structure FileTree where
  /-- What is in the folder above all others. -/
  entries : List (String × FileNode)
  /-- The names that lead from there to the working directory. -/
  folder : List String
  deriving Inhabited

namespace FileNode

/-- What a folder holds; a file holds nothing. -/
def entries : FileNode → Entries FileNode
  | .folder entries => entries
  | .file _ | .binary | .device .. => []

end FileNode

namespace FileTree

/-- What a list of names leads to, from some entries. -/
def nodeIn? : Entries FileNode → List String → Option FileNode
  | entries, [] => some (.folder entries)
  | entries, [name] => Entries.find? name entries
  | entries, name :: names =>
    match Entries.find? name entries with
    | some (.folder inner) => nodeIn? inner names
    | _ => none

/-- What a list of names leads to. -/
def node? (tree : FileTree) (names : List String) : Option FileNode :=
  nodeIn? tree.entries names

/-- Entries with a node under a list of names, and the folders that lead to it. -/
def putIn (node : FileNode) : Entries FileNode → List String → Entries FileNode
  | entries, [] => entries
  | entries, [name] => Entries.insert name node entries
  | entries, name :: names =>
    let inner := ((Entries.find? name entries).map FileNode.entries).getD []
    Entries.insert name (.folder (putIn node inner names)) entries

/-- The tree with a node under a list of names, and the folders that lead to it. -/
def put (tree : FileTree) (names : List String) (node : FileNode) : FileTree :=
  { tree with entries := putIn node tree.entries names }

mutual

/-- What is below a path, the node there included: folders end in a slash and
have no text. -/
def listNode (path : String) : FileNode → List (String × String)
  | .file text => [(path, text)]
  | .binary | .device .. => [(path, "")]
  | .folder entries => (path ++ "/", "") :: listEntries (path ++ "/") entries

/-- What is in a folder whose path, with a slash, stands in front. -/
def listEntries (base : String) : List (String × FileNode) → List (String × String)
  | [] => []
  | (name, node) :: rest => listNode (base ++ name) node ++ listEntries base rest

end

/-- All files and folders in the working directory, with their paths from there. -/
def listing (tree : FileTree) : List (String × String) :=
  listEntries "" (((tree.node? tree.folder).map FileNode.entries).getD [])

end FileTree

end BracketTemplate
