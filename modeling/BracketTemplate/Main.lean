/-
# The program

Reads files, prints and writes as `BracketTemplate.CommandLine.Run` says.  What
a run reads depends on what it has read, so the run is made again with one file
more until it asks for none that is not known.
-/

import BracketTemplate.CommandLine.Run

namespace BracketTemplate

namespace Main

open CommandLine

/-- The fault with a number, which may come with its sign changed. -/
def faultOfCode (code : UInt32) (words : String) : FileFault :=
  let n := code.toNat
  .ofCode (if n < Nat.pow 2 31 then n else Nat.pow 2 32 - n) words.capitalize

/-- The fault that an error of the operating system stands for. -/
def faultOf : IO.Error → FileFault
  | .noFileOrDirectory _ code words => faultOfCode code words
  | .alreadyExists _ code words | .invalidArgument _ code words
  | .permissionDenied _ code words | .resourceExhausted _ code words
  | .inappropriateType _ code words | .noSuchThing _ code words => faultOfCode code words
  | .otherError code words | .resourceBusy code words | .resourceVanished code words
  | .unsupportedOperation code words | .hardwareFault code words
  | .unsatisfiedConstraints code words | .illegalOperation code words
  | .protocolError code words | .timeExpired code words => faultOfCode code words
  | .interrupted _ code words => faultOfCode code words
  | .unexpectedEof => .other "unexpected end of file"
  | .userError words => .other words

/-- The result of an action, or what is said about its failure. -/
def attempt {ε α : Type} (fault : IO.Error → ε) (action : IO α) : IO (Except ε α) := do
  try
    return .ok (← action)
  catch e => return .error (fault e)

/-- Reads the file at a path. -/
def readFile (path : String) : IO (Except FileFault String) := do
  match FileTree.Route.ofText path with
  | .error fault => return .error fault
  | .ok _ =>
    match ← attempt faultOf (IO.FS.readBinFile path) with
    | .ok bytes => return (String.fromUTF8? bytes).elim (.error .notText) .ok
    | .error fault => return .error fault

/-- Writes the file at a path. -/
def writeFile (path text : String) : IO (Except FileFault Unit) := do
  match FileTree.Route.ofText path with
  | .error fault => return .error fault
  | .ok _ => attempt faultOf (IO.FS.writeFile path text)

/-- The world of the program. -/
def world : World IO where
  say text := do
    let said ← attempt faultOf do (← IO.getStderr).putStr text
    return said.toBool
  print text := attempt (fun e => (faultOf e).message) do (← IO.getStdout).putStr text
  flush := attempt (fun e => (faultOf e).message) do (← IO.getStdout).flush
  write := writeFile

/-- What is known of files. -/
abbrev Known := Entries (Except FileFault String)

/-- Reads what is known; other files are not there. -/
def Known.read (known : Known) : ReadFile := fun path =>
  (Entries.find? path known).getD (.error .notFound)

/-- Reads files until a run asks for none that is not known. -/
partial def gather (environment : Environment) (known : Known) : IO Known := do
  let wanted := (reads environment (Known.read known)).find? fun path =>
    (Entries.find? path known).isNone
  match wanted with
  | none => return known
  | some path => gather environment (Entries.insert path (← readFile path) known)

/-- The variables of the environment that a run looks at. -/
def assigned : IO (Entries String) := do
  let mut found : Entries String := []
  for name in Environment.variableNames do
    if let some value ← IO.getEnv name then
      found := Entries.insert name value found
  return found

/-- Runs the program. -/
def runProgram (args : List String) : IO UInt32 := do
  let environment : Environment := {
    args := args
    assigned := ← assigned
    isTerminal := ← (← IO.getStdout).isTty
    workingFolder := ← attempt faultOf do return (← IO.currentDir).toString }
  let known ← gather environment []
  let code ← world.carryThrough environment (plan environment (Known.read known))
  return code.toUInt32

end Main

end BracketTemplate

/-- Runs the program on its arguments. -/
def main (args : List String) : IO UInt32 := BracketTemplate.Main.runProgram args
