/-
# Running a command

A run carries out its plan in a `World`, where each thing that it does can be
refused.  A refused print or write makes a run fail, and a failure is said on the
standard error.  A line that cannot be said ends the run at once; a log message that
cannot be said is lost.

| exit code | means |
| --- | --- |
| 0 | done, the result is on the standard output or in the file asked for |
| 1 | failed, with the reason on the standard error |
| 2 | the arguments are not well-formed |
| 101 | a line for the standard error could not be said |

A text is printed in two steps: it is handed to the standard output, which keeps it,
and then the standard output is asked to pass on what it has.

`System` is a world as a value: a file tree, what has been printed and said, and
what the system refuses.  What it refuses it does not do at all.
-/

import BracketTemplate.CommandLine.Plan

namespace BracketTemplate

namespace CommandLine

/-- What a run can do besides reading files. -/
structure World (m : Type → Type) where
  /-- Puts a text on the standard error, and tells whether that has been done. -/
  say : String → m Bool
  /-- Hands a text to the standard output. -/
  print : String → m (Except String Unit)
  /-- Makes the standard output pass on what it has been handed. -/
  flush : m (Except String Unit)
  /-- Writes a text at a path. -/
  write : (path text : String) → m (Except FileFault Unit)

/-- The exit code of a run that cannot say a line. -/
def muteCode : Nat := 101

/-- The last line of a run that fails. -/
def failureLine (reason : String) : String := "Error: " ++ reason

/-- The last line of a run that has written a file. -/
def doneLine (environment : Environment) (path : String) : String :=
  s!"{doneMark environment.color} Wrote {path}"

/-- Why a file is not written. -/
def writeFailure (path : String) (fault : FileFault) : String :=
  s!"Failed to write {path}: {fault.message}"

/-- Lines, each with its newline. -/
def unlines (lines : List String) : String := String.join (lines.map (· ++ "\n"))

/-- How the program is called. -/
def usageText : String :=
  unlines [
    "Usage: ryuji [-v] [-c <path>] <command>",
    "",
    "  render <name> [--vars <path>] [-o <path>] [--strip-blank-lines]",
    "  render-file <path> [--vars <path>] [-o <path>] [--strip-blank-lines]",
    "  inspect <path> [--json]"]

/-- The name of the program and its version. -/
def versionText : String := "ryuji 0.1.0\n"

/-- What a run comes to. -/
structure Report where
  code : Nat
  stdout : String
  stderr : String
  deriving DecidableEq, Repr

/-- The report on arguments that lead to no command. -/
def Stop.report : Stop → Report
  | .usage => ⟨2, "", usageText⟩
  | .help => ⟨0, usageText, ""⟩
  | .version => ⟨0, versionText, ""⟩

namespace World

variable {m : Type → Type} [Monad m] (world : World m)

/-- Says one thing after the other up to a line that cannot be said, and tells
whether there was none. -/
def sayAll : List Remark → m Bool
  | [] => return true
  | .log text :: rest => do
    let _ ← world.say text
    sayAll rest
  | .line text :: rest => do
    if ← world.say text then sayAll rest else return false

/-- Says a last line, and ends with a code if that can be done. -/
def finish (code : Nat) (line : String) : m Nat := do
  return if ← world.say (line ++ "\n") then code else muteCode

/-- Prints a text. -/
def printAll (text : String) : m (Except String Unit) := do
  match ← world.print text with
  | .ok () => world.flush
  | .error reason => return .error reason

/-- Does what is left to do, and ends with an exit code. -/
def perform (environment : Environment) : Deed → m Nat
  | .fail reason => world.finish 1 (failureLine reason)
  | .print text => do
    match ← world.printAll text with
    | .ok () => return 0
    | .error reason => world.finish 1 (failureLine reason)
  | .save path text => do
    match ← world.write path text with
    | .ok () => world.finish 0 (doneLine environment path)
    | .error fault => world.finish 1 (failureLine (writeFailure path fault))

/-- Carries out a plan.  Where there is none, the report on the arguments is given as
far as it can be. -/
def carryThrough (environment : Environment) : Except Stop Plan → m Nat
  | .ok p => do
    if ← world.sayAll p.remarks then world.perform environment p.deed else return muteCode
  | .error stop => do
    let _ ← world.say stop.report.stderr
    let _ ← world.printAll stop.report.stdout
    return stop.report.code

end World

/-- What a system refuses. -/
structure System where
  /-- Why a text is not written at a path. -/
  writeRefusal? : (path text : String) → Option FileFault
  /-- Why the standard output does not take a text. -/
  printRefusal? : String → Option String
  /-- Why the standard output does not pass on a text that it has taken. -/
  flushRefusal? : String → Option String
  /-- Whether the standard error takes a text, after those that it has taken. -/
  hears : (said text : String) → Bool

/-- What there is to be seen of a run, and what the standard output keeps. -/
structure Scene where
  tree : FileTree
  kept : String
  stdout : String
  stderr : String

/-- A scene after a text has been written. -/
def Scene.writeTo (s : Scene) (text : String) (target : FileTree.Target) : Scene :=
  let s := { s with tree := s.tree.writeTo text target }
  match target with
  | .device .stdout => { s with stdout := s.stdout ++ text }
  | .device .stderr => { s with stderr := s.stderr ++ text }
  | .device .nowhere | .file _ => s

/-- The report of a run that has ended with a code and a scene, and the tree it leaves. -/
def reportOf : Nat × Scene → Report × FileTree
  | (code, s) => (⟨code, s.stdout, s.stderr⟩, s.tree)

namespace System

/-- The system that refuses nothing but what a file tree refuses. -/
def obliging : System := ⟨fun _ _ => none, fun _ => none, fun _ => none, fun _ _ => true⟩

variable (system : System)

/-- What a text is written to at a path. -/
def target (tree : FileTree) (path text : String) : Except FileFault FileTree.Target :=
  match system.writeRefusal? path text with
  | some fault => .error fault
  | none => tree.target path

/-- What a run can do on a system. -/
def world : World (StateM Scene) where
  say text := fun s =>
    if system.hears s.stderr text then (true, { s with stderr := s.stderr ++ text })
    else (false, s)
  print text := fun s =>
    match system.printRefusal? text with
    | some reason => (.error reason, s)
    | none => (.ok (), { s with kept := s.kept ++ text })
  flush := fun s =>
    match system.flushRefusal? s.kept with
    | some reason => (.error reason, s)
    | none => (.ok (), { s with kept := "", stdout := s.stdout ++ s.kept })
  write path text := fun s =>
    match system.target s.tree path text with
    | .error fault => (.error fault, s)
    | .ok target => (.ok (), s.writeTo text target)

end System

/-- A run on a system and a file tree: its report, and the tree it leaves. -/
def runOn (system : System) (environment : Environment) (tree : FileTree) :
    Report × FileTree :=
  let p := plan environment tree.read
  reportOf ((system.world.carryThrough environment p).run ⟨tree, "", "", ""⟩)

/-- A run on a file tree, where nothing else is refused. -/
def run (environment : Environment) (tree : FileTree) : Report × FileTree :=
  runOn .obliging environment tree

end CommandLine

end BracketTemplate
