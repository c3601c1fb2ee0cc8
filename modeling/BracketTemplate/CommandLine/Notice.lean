/-
# What is said while a command runs

A command says things as it goes: log messages, and lines meant for the user.
What is shown of them is a `Remark` on the standard error.  Log messages are said
for what they are worth, but a command does not go on when it cannot say a line.
A message may have several lines, the further ones of which are indented, and of
what is in it only what a terminal shows counts.  A command also notes which
files it reads.  A `Telling` is what has been said so far
together with a result, or with the reason why there is none; the causes of a
failure are told from the outermost inwards, with a colon between two.
-/

import BracketTemplate.CommandLine.LogFilter
import BracketTemplate.Text.Markup
import BracketTemplate.Text.Terminal

namespace BracketTemplate

namespace CommandLine

/-- Something that a command says or notes. -/
inductive Notice where
  | log (m : Message)
  | line (text : String)
  /-- The file at a path is read. -/
  | reading (path : String)
  deriving DecidableEq, Repr

/-- A text for the standard error, with its newline. -/
inductive Remark where
  /-- A line that has to be said. -/
  | line (text : String)
  /-- A log message, which is lost if it cannot be said. -/
  | log (text : String)
  deriving DecidableEq, Repr

namespace Notice

/-- A text of several lines, all but the first indented by four spaces. -/
def indented (text : String) : String :=
  String.ofList (Text.replaceChar '\n' ['\n', ' ', ' ', ' ', ' '] text.toList)

/-- A log message as it is shown: the level takes five places. -/
def logText (m : Message) : String :=
  let level := m.level.name
  let padding := String.ofList (List.replicate (5 - level.length) ' ')
  Terminal.visible s!"[{level}{padding} {m.target}] {indented m.text}\n"

/-- What a notice shows, if it shows something. -/
def remark? (f : LogFilter) : Notice → Option Remark
  | .log m => if f.shows m then some (.log (logText m)) else none
  | .line text => some (.line (text ++ "\n"))
  | .reading _ => none

/-- The path of the file that is read. -/
def reading? : Notice → Option String
  | .reading path => some path
  | .log _ | .line _ => none

end Notice

/-- What has been said, and a result or the reason why there is none. -/
structure Telling (α : Type) where
  notices : List Notice
  result : Except String α

namespace Telling

variable {α β : Type}

/-- One telling after the other, if the first has a result. -/
def andThen (t : Telling α) (f : α → Telling β) : Telling β :=
  match t.result with
  | .ok a => { f a with notices := t.notices ++ (f a).notices }
  | .error reason => ⟨t.notices, .error reason⟩

instance : Monad Telling where
  pure a := ⟨[], .ok a⟩
  bind := andThen

/-- Says something. -/
def say (notice : Notice) : Telling Unit := ⟨[notice], .ok ()⟩

/-- Logs a message of a part of the program. -/
def log (level : Level) (target text : String) : Telling Unit := say (.log ⟨level, target, text⟩)

/-- Fails for a reason. -/
def fail (reason : String) : Telling α := ⟨[], .error reason⟩

/-- A result that is there, or the reason why it is not. -/
def ofExcept {ε : Type} (message : ε → String) : Except ε α → Telling α
  | .ok a => ⟨[], .ok a⟩
  | .error e => ⟨[], .error (message e)⟩

/-- Says in front of a reason what has failed. -/
def inContext (what : String) (t : Telling α) : Telling α :=
  { t with result := t.result.mapError fun reason => what ++ ": " ++ reason }

end Telling

/-- A text in a colour, if colours are wanted. -/
def paint (color : Bool) (code text : String) : String :=
  if color then s!"\x1b[{code}m{text}\x1b[0m" else text

/-- The mark of something done. -/
def doneMark (color : Bool) : String := paint color "1;32" "✓"

/-- The mark of something begun. -/
def beginMark (color : Bool) : String := paint color "36" "→"

/-- The mark of something missing. -/
def missingMark (color : Bool) : String := paint color "33" "!"

end CommandLine

end BracketTemplate
