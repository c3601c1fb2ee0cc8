/-
# Text without terminal controls

A terminal takes some characters for commands.  What is left of a text without
them is what `visible` gives: `Terminal.State` says which command a character is
part of.

| state | begins with | ends with |
| --- | --- | --- |
| `escape` | an escape character | a character from `0` on, which may begin another command |
| `intermediate` | escape and a character from space to `/` | a character from `0` on |
| `control` | escape and `[` | a character from `@` on |
| `system` | escape and `]` | the bell |
| `deviceEntry`, `deviceParameters`, `deviceIntermediates` | escape and `P` | a character that makes it a `string` |
| `string` | escape and `X`, `^` or `_`, or a device command | a byte `9C` |

Every command also ends with a cancel, a substitute or a new escape character.
White space is shown in `escape`, `intermediate` and `control`, and what follows
it is shown as if no command were open.  The command is open again from the next
character on that is not shown.
-/

namespace BracketTemplate

namespace Terminal

/-- The command that a character is part of. -/
inductive State where
  | ground
  | escape
  | intermediate
  | control
  | system
  | deviceEntry
  | deviceParameters
  | deviceIntermediates
  | string
  deriving DecidableEq, Repr, Inhabited

/-- Whether a character is a control character. -/
def isControl (c : Char) : Bool := c < ' '

/-- Whether a character lies between two others, both included. -/
def isBetween (first last c : Char) : Bool := first ≤ c && c ≤ last

/-- The white space that is shown although it is a control character. -/
def isShownControl (c : Char) : Bool := c ∈ ['\t', '\n', '\x0c', '\r']

/-- The state after the first character of a command, past the escape. -/
def afterEscape? (c : Char) : Option State :=
  if isBetween ' ' '/' c then some .intermediate
  else if c = '[' then some .control
  else if c = ']' then some .system
  else if c = 'P' then some .deviceEntry
  else if c ∈ ['X', '^', '_'] then some .string
  else if isBetween '0' '~' c then some .ground
  else none

/-- The state after a character of a device command, in front of its string. -/
def afterDevice? (s : State) (c : Char) : Option State :=
  if isBetween '@' '~' c then some .string
  else if isBetween ' ' '/' c then some .deviceIntermediates
  else if isBetween '0' '?' c then
    if s = .deviceEntry ∨ s = .deviceParameters ∧ c < '<' then some .deviceParameters
    else some .string
  else none

/-- The state after a character in a state, if it is another. -/
def next? (s : State) (c : Char) : Option State :=
  if c = '\x18' ∨ c = '\x1a' then some .ground
  else if c = '\x1b' then some .escape
  else
    match s with
    | .ground => if c < '\x80' then none else some .ground
    | .escape => afterEscape? c
    | .intermediate => if isBetween '0' '~' c then some .ground else none
    | .control => if isBetween '@' '~' c then some .ground else none
    | .system => if c = '\x07' then some .ground else none
    | .deviceEntry | .deviceParameters | .deviceIntermediates => afterDevice? s c
    | .string => if (String.utf8EncodeChar c).contains 0x9C then some .ground else none

/-- Whether a character in a state is shown. -/
def isShown (s : State) (c : Char) : Bool :=
  match s with
  | .ground => isShownControl c || (!isControl c && c != '\x7f')
  | .escape | .intermediate | .control => isShownControl c
  | .system | .deviceEntry | .deviceParameters | .deviceIntermediates | .string => false

/-- What is shown of the characters from a state on.  While characters are
shown, whatever command is open waits; a character that is not shown then counts
for the command too. -/
def visibleFrom : (showing : Bool) → State → List Char → List Char
  | _, _, [] => []
  | showing, s, c :: rest =>
    let current := if showing then .ground else s
    let after := (next? current c).getD s
    if isShown current c then c :: visibleFrom true after rest
    else if showing then visibleFrom false ((next? after c).getD after) rest
    else visibleFrom false after rest

/-- What a terminal shows of a text. -/
def visible (text : String) : String := String.ofList (visibleFrom false .ground text.toList)

/-- Of a coloured word only the word is shown. -/
example : visible "a\x1b[1;32mb\x1b[0m" = "ab" := by decide +kernel

end Terminal

end BracketTemplate
