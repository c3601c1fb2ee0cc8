/-
# Command-line arguments

The arguments are those of the program and then, after the word that names a
command, those of the command.

| | flags | options with a path | word |
| --- | --- | --- | --- |
| program | `-v` `--verbose`, `-h` `--help`, `-V` `--version` | `-c` `--config` | a command |
| `render` | `-v` `--verbose`, `--strip-blank-lines`, `-h` `--help` | `-c` `--config`, `--vars`, `-o` `--output` | name |
| `render-file` | the same | the same | path |
| `inspect` | `-v` `--verbose`, `--json`, `-h` `--help` | `-c` `--config` | path |

Short flags can be written together, and the value of an option in the same
argument (`-ox`, `-o=x`, `--output=x`) or in the next one, unless that starts
with a dash and is not just one.  After `--` everything is a word.  No option
is given twice, a path is not empty, and there is exactly one word.

What `-v` and `-c` say may be said to the program or to the command, and the
command counts; without either `-c` takes its path from the environment.
-/

namespace BracketTemplate

namespace CommandLine

/-- What a flag asks for. -/
inductive Flag where
  | verbose
  | stripBlankLines
  | json
  | help
  | version
  deriving DecidableEq, Repr

/-- What an option gives a path for. -/
inductive PathOption where
  | config
  | vars
  | output
  deriving DecidableEq, Repr

/-- What a flag or an option is written for. -/
inductive Switch where
  | flag (f : Flag)
  | option (o : PathOption)
  deriving DecidableEq, Repr

/-- Why the arguments lead to no command. -/
inductive Stop where
  /-- They are not well-formed. -/
  | usage
  | help
  | version
  deriving DecidableEq, Repr

/-- The switches that may be given, by their long and short names. -/
structure Grammar where
  long : List (String × Switch)
  short : List (Char × Switch)
  /-- Whether the word is the name of a command, after which others take over. -/
  ofProgram : Bool
  /-- Whether the word is a path. -/
  wordIsPath : Bool

namespace Grammar

/-- The switches of the program. -/
def program : Grammar where
  long := [("verbose", .flag .verbose), ("config", .option .config), ("help", .flag .help),
    ("version", .flag .version)]
  short := [('v', .flag .verbose), ('c', .option .config), ('h', .flag .help),
    ('V', .flag .version)]
  ofProgram := true
  wordIsPath := false

/-- The switches of the commands that render. -/
def render (wordIsPath : Bool) : Grammar where
  long := [("verbose", .flag .verbose), ("config", .option .config), ("help", .flag .help),
    ("vars", .option .vars), ("output", .option .output),
    ("strip-blank-lines", .flag .stripBlankLines)]
  short := [('v', .flag .verbose), ('c', .option .config), ('h', .flag .help),
    ('o', .option .output)]
  ofProgram := false
  wordIsPath := wordIsPath

/-- The switches of the command that lists. -/
def inspect : Grammar where
  long := [("verbose", .flag .verbose), ("config", .option .config), ("help", .flag .help),
    ("json", .flag .json)]
  short := [('v', .flag .verbose), ('c', .option .config), ('h', .flag .help)]
  ofProgram := false
  wordIsPath := true

end Grammar

/-- What was given so far. -/
structure Given where
  flags : List Flag := []
  paths : List (PathOption × String) := []
  words : List String := []

namespace Given

/-- Adds a flag, which may be given once.  Help and version stop the reading. -/
def addFlag (g : Given) (f : Flag) : Except Stop Given :=
  match f with
  | .help => .error .help
  | .version => .error .version
  | f => if f ∈ g.flags then .error .usage else .ok { g with flags := f :: g.flags }

/-- The path given with an option. -/
def path? (g : Given) (o : PathOption) : Option String :=
  (g.paths.find? (·.1 = o)).map (·.2)

/-- Adds the path of an option, which may be given once and is not empty. -/
def addPath (g : Given) (o : PathOption) (path : String) : Except Stop Given :=
  if path = "" ∨ (g.path? o).isSome then .error .usage
  else .ok { g with paths := (o, path) :: g.paths }

/-- Adds a word, of which there is one. -/
def addWord (grammar : Grammar) (g : Given) (word : String) : Except Stop Given :=
  if g.words ≠ [] ∨ (grammar.wordIsPath ∧ word = "") then .error .usage
  else .ok { g with words := [word] }

end Given

/-- Whether an argument is a switch rather than a word or a value. -/
def isSwitch (arg : String) : Bool :=
  match arg.toList with
  | '-' :: _ :: _ => true
  | _ => false

/-- Splits a long switch at its first `=`. -/
def splitAtEquals (cs : List Char) : String × Option String :=
  match cs.span (· != '=') with
  | (name, '=' :: value) => (String.ofList name, some (String.ofList value))
  | (name, _) => (String.ofList name, none)

/-- The value written behind a short option, without an `=` in front. -/
def attached? : List Char → Option String
  | [] => none
  | '=' :: value => some (String.ofList value)
  | value => some (String.ofList value)

/-- Reads short switches written together.  If the last of them is an option
without a value, its value is still to come. -/
def readShort (grammar : Grammar) :
    Given → List Char → Except Stop (Given × Option PathOption)
  | g, [] => .ok (g, none)
  | g, c :: rest =>
    match grammar.short.lookup c with
    | none => .error .usage
    | some (.flag f) =>
      match g.addFlag f with
      | .ok g => readShort grammar g rest
      | .error stop => .error stop
    | some (.option o) =>
      match attached? rest with
      | some value => (g.addPath o value).map (·, none)
      | none => .ok (g, some o)

/-- Reads a long switch, from after its dashes. -/
def readLong (grammar : Grammar) (g : Given) (cs : List Char) :
    Except Stop (Given × Option PathOption) :=
  let (name, value?) := splitAtEquals cs
  match grammar.long.lookup name, value? with
  | some (.flag f), none => (g.addFlag f).map (·, none)
  | some (.option o), some value => (g.addPath o value).map (·, none)
  | some (.option o), none => .ok (g, some o)
  | _, _ => .error .usage

/-- Reads a switch. -/
def readSwitch (grammar : Grammar) (g : Given) (arg : String) :
    Except Stop (Given × Option PathOption) :=
  match arg.toList with
  | '-' :: '-' :: cs => readLong grammar g cs
  | '-' :: cs => readShort grammar g cs
  | _ => .error .usage

/-- Reads arguments.  For the program the reading ends in front of the word,
and what is left belongs to the command. -/
def readArguments (grammar : Grammar) :
    Given → List String → Except Stop (Given × List String)
  | g, [] => .ok (g, [])
  | g, arg :: rest =>
    if arg = "--" then
      if grammar.ofProgram then .error .usage
      else (rest.foldlM (Given.addWord grammar) g).map (·, [])
    else if isSwitch arg then
      match readSwitch grammar g arg with
      | .error stop => .error stop
      | .ok (g, none) => readArguments grammar g rest
      | .ok (g, some o) =>
        match rest with
        | [] => .error .usage
        | value :: rest =>
          if isSwitch value then .error .usage
          else
            match g.addPath o value with
            | .ok g => readArguments grammar g rest
            | .error stop => .error stop
    else if grammar.ofProgram then .ok (g, arg :: rest)
    else
      match g.addWord grammar arg with
      | .ok g => readArguments grammar g rest
      | .error stop => .error stop

/-- What is rendered with, and where the result goes. -/
structure RenderOptions where
  vars? : Option String
  output? : Option String
  stripBlankLines : Bool
  deriving DecidableEq, Repr

/-- What the program is to do. -/
inductive Command where
  | render (name : String) (options : RenderOptions)
  | renderFile (path : String) (options : RenderOptions)
  | inspect (path : String) (json : Bool)
  deriving DecidableEq, Repr

/-- A command, and what holds for all commands. -/
structure Invocation where
  verbose : Bool
  config? : Option String
  command : Command
  deriving DecidableEq, Repr

/-- The path of the settings as far as some arguments and the environment tell. -/
def configOf (environment? : Option String) (g : Given) : Except Stop (Option String) :=
  match g.path? .config, environment? with
  | some path, _ => .ok (some path)
  | none, some "" => .error .usage
  | none, _ => .ok none

/-- The options of a command that renders. -/
def renderOptions (g : Given) : RenderOptions where
  vars? := g.path? .vars
  output? := g.path? .output
  stripBlankLines := .stripBlankLines ∈ g.flags

/-- The grammar of the command with a name, and the command that comes of its
word and switches. -/
def commandNamed? : String → Option (Grammar × (String → Given → Command))
  | "render" => some (.render false, fun word g => .render word (renderOptions g))
  | "render-file" => some (.render true, fun word g => .renderFile word (renderOptions g))
  | "inspect" => some (.inspect, fun word g => .inspect word (.json ∈ g.flags))
  | _ => none

/-- Reads the arguments of a command. -/
def readCommand (environment? : Option String) (outer : Given) (name : String)
    (args : List String) : Except Stop Invocation :=
  match commandNamed? name with
  | none => .error .usage
  | some (grammar, make) => do
    let (inner, _) ← readArguments grammar {} args
    match inner.words with
    | [word] =>
      let innerConfig? ← configOf environment? inner
      let outerConfig? ← configOf environment? outer
      return {
        verbose := .verbose ∈ inner.flags ∨ .verbose ∈ outer.flags
        config? := innerConfig?.or (outerConfig?.or environment?)
        command := make word inner }
    | _ => .error .usage

/-- Reads the arguments of the program; `environment?` is the path of the
settings that the environment gives. -/
def readInvocation (environment? : Option String) (args : List String) :
    Except Stop Invocation := do
  let (outer, rest) ← readArguments .program {} args
  match rest with
  | [] => .error .usage
  | ["help"] => .error .help
  | ["help", name] =>
    .error (if name = "help" ∨ (commandNamed? name).isSome then .help else .usage)
  | name :: args => readCommand environment? outer name args

end CommandLine

end BracketTemplate
