/-
# What a run is to do

A run reads what it needs and renders or lists, and what it is then to do is one
thing: to print a text, to write a text to a file, or to fail for a reason.  Up to
there nothing has been printed or written, so all that a run does before can be
told as a `Plan`: what it says on the way, and the `Deed` at its end.

| command | comes to |
| --- | --- |
| `render`, `render-file` | the text that has been rendered |
| with `--strip-blank-lines` | that text without its blank lines |
| with `--output` | the text as before, for a file |
| `inspect` | the list of the directives |
-/

import BracketTemplate.CommandLine.Arguments
import BracketTemplate.CommandLine.Listing
import BracketTemplate.Json.Reading
import BracketTemplate.Loader.Files
import BracketTemplate.Render
import BracketTemplate.Settings.Files
import BracketTemplate.Text.Lines

namespace BracketTemplate

namespace CommandLine

/-- How files are read. -/
abbrev ReadFile := String → Except FileFault String

/-- What a run is given besides files: its arguments, the values
assigned to the variables of the environment, whether the standard output is a
terminal, and the path of the working directory, if there is one. -/
structure Environment where
  args : List String
  assigned : Entries String
  isTerminal : Bool
  workingFolder : Except FileFault String

namespace Environment

/-- The names of the variables that a run looks at. -/
def variableNames : List String :=
  ["RYUJI_CONFIG", "RUST_LOG", "NO_COLOR", "CLICOLOR", "CLICOLOR_FORCE"]

/-- The value of a variable. -/
def value? (environment : Environment) (name : String) : Option String :=
  Entries.find? name environment.assigned

/-- The path of the settings that the environment gives. -/
def config? (environment : Environment) : Option String := environment.value? "RYUJI_CONFIG"

/-- The specification of the log filter that the environment gives. -/
def logSpec? (environment : Environment) : Option String := environment.value? "RUST_LOG"

/-- Whether colours are wanted: they can be asked for and declined, and go to
terminals if nothing is said.  A value of `0` asks for the contrary. -/
def color (environment : Environment) : Bool :=
  let wish (name : String) := (environment.value? name).map (· != "0")
  if wish "CLICOLOR_FORCE" = some true then true
  else if (environment.value? "NO_COLOR").isSome then false
  else (wish "CLICOLOR").getD true && environment.isTerminal

end Environment

/-- The part of the program that speaks for commands. -/
def target : String := "ryuji::context"

/-- The file with the settings, in the working directory. -/
def settingsFile : String := "ryuji.toml"

/-- Reads a file, and notes that it does. -/
def readNoted (read : ReadFile) (path : String) : Telling (Except FileFault String) :=
  ⟨[.reading path], .ok (read path)⟩

/-- Reads a file, or fails with what is said about it. -/
def readText (read : ReadFile) (path : String) : Telling String := do
  Telling.ofExcept FileFault.message (← readNoted read path)

/-- The settings in a file, of which `content` has been read. -/
def settingsOf (content : Except FileFault String) : Telling Settings :=
  Telling.ofExcept SettingsError.message (Settings.ofContent Toml.format content)

/-- The settings of a run: those at a path that is given, else those in the
working directory, else those by default. -/
def loadSettings (environment : Environment) (read : ReadFile) (config? : Option String) :
    Telling Settings := do
  match config? with
  | some path =>
    ((readNoted read path).andThen settingsOf).inContext s!"Failed to load config {path}"
  | none =>
    let folder ← Telling.ofExcept FileFault.message environment.workingFolder
    let path := Loader.locate folder settingsFile
    let content ← readNoted read path
    let isAbsent :=
      match content with
      | .error fault => fault.isAbsence
      | .ok _ => false
    if isAbsent then
      Telling.log .debug target s!"no {settingsFile} found, using defaults"
      return {}
    else
      Telling.log .debug target s!"using config {path}"
      settingsOf content

/-- What follows the last dot of the name of a file.  A dot at the start of the
name does not count. -/
def extension? (path : String) : Option String :=
  let name := ((path.toList.splitOn '/').filter (· ≠ [])).getLast?.getD []
  match (name.reverse.span (· != '.')) with
  | (_, []) | (_, ['.']) => none
  | (after, _ :: _) => some (String.ofList after.reverse)

/-- The context in a file, by its extension. -/
def contextOf (path text : String) : Telling Context :=
  match extension? path with
  | some "json" => Telling.ofExcept ContextError.message (Context.ofJsonText text)
  | some "toml" => Telling.ofExcept ContextError.message (Context.ofTomlText text)
  | _ => Telling.fail s!"Unsupported vars file {path}: expected .json or .toml"

/-- The variables of a run; without a file there are none. -/
def loadVariables (read : ReadFile) : Option String → Telling Context
  | none => return .empty
  | some path => do
    let text ← (readText read path).inContext s!"Failed to read vars file {path}"
    let context ← contextOf path text
    if context.isEmpty then
      Telling.log .warn target s!"vars file {path} defines no variables"
    else
      Telling.log .debug target s!"loaded {context.size} variable(s) from {path}"
    return context

/-- The loader of a run: sources are files in the working directory. -/
def loader (read : ReadFile) : Loader := .ofFiles read ""

/-- What a render says and notes. -/
def noticesOf (e : Event) : List Notice :=
  ((e.message? some).map Notice.log).toList ++
    match e.action with
    | .loaded path => [.reading (Loader.locate "" path)]
    | _ => []

/-- The output of a render, with what it says. -/
def output (r : Run) : Telling String :=
  ⟨r.events.flatMap noticesOf, r.result.mapError RenderError.message⟩

/-- Says a line if there is much to be said. -/
def sayIf (verbose : Bool) (line : String) : Telling Unit :=
  if verbose then Telling.say (.line line) else return

/-- A text, and the file it goes to unless it is printed. -/
structure Product where
  text : String
  output? : Option String

/-- What is asked for, from the output of a render. -/
def product (options : RenderOptions) (text : String) : Product :=
  ⟨if options.stripBlankLines then Text.stripBlankLines text else text, options.output?⟩

/-- Carries out a command up to its result. -/
def carryOut (environment : Environment) (read : ReadFile) (invocation : Invocation) :
    Telling Product := do
  let settings ← loadSettings environment read invocation.config?
  let arrow := beginMark environment.color
  match invocation.command with
  | .render name options =>
    let context ← loadVariables read options.vars?
    sayIf invocation.verbose s!"{arrow} Rendering template '{name}' from {settings.templatesRoot}"
    let r := Render.renderNamed settings (loader read) name context
    let text ← (output r).inContext s!"Failed to render '{name}'"
    return product options text
  | .renderFile path options =>
    let context ← loadVariables read options.vars?
    let source ← (readText read path).inContext s!"Failed to read template {path}"
    sayIf invocation.verbose s!"{arrow} Rendering {path}"
    let r := Render.renderText settings (loader read) source context
    let text ← (output r).inContext s!"Failed to render {path}"
    return product options text
  | .inspect path json =>
    let source ← (readText read path).inContext s!"Failed to read template {path}"
    let directives := Directive.scan source
    return ⟨if json then jsonListing directives else listing environment.color directives, none⟩

/-- What is left to do when all has been read and rendered. -/
inductive Deed where
  | fail (reason : String)
  | print (text : String)
  | save (path text : String)
  deriving DecidableEq, Repr

/-- What a run says, and what it then does. -/
structure Plan where
  remarks : List Remark
  deed : Deed
  deriving DecidableEq, Repr

/-- The filter of a run, and what is said about its specification. -/
def logFilter (environment : Environment) (verbose : Bool) : LogFilter × List String :=
  LogFilter.ofSpec (environment.logSpec?.getD (if verbose then "debug" else "warn"))

/-- What a run says about its filter, and then on its way. -/
def remarksOf (environment : Environment) (verbose : Bool) (notices : List Notice) :
    List Remark :=
  let (filter, warnings) := logFilter environment verbose
  warnings.map (fun warning => .line (warning ++ "\n")) ++
    notices.filterMap (Notice.remark? filter)

/-- What is done about a result. -/
def Deed.ofResult : Except String Product → Deed
  | .ok ⟨text, none⟩ => .print text
  | .ok ⟨text, some path⟩ => .save path text
  | .error reason => .fail reason

/-- What a telling leads to. -/
def Plan.ofTelling (environment : Environment) (verbose : Bool) (t : Telling Product) : Plan :=
  ⟨remarksOf environment verbose t.notices, .ofResult t.result⟩

/-- A run up to the point where something is printed or written, unless its
arguments lead to no command. -/
def plan (environment : Environment) (read : ReadFile) : Except Stop Plan := do
  let invocation ← readInvocation environment.config? environment.args
  return .ofTelling environment invocation.verbose (carryOut environment read invocation)

/-- The files that a run reads, in the order in which it does. -/
def reads (environment : Environment) (read : ReadFile) : List String :=
  match readInvocation environment.config? environment.args with
  | .error _ => []
  | .ok invocation => (carryOut environment read invocation).notices.filterMap Notice.reading?

end CommandLine

end BracketTemplate
