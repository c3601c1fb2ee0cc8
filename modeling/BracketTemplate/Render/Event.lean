/-
# What happens in a render

A render keeps a record of what it does: every directive it comes to, every
loop that opens, turns back and closes, every value that a loop binds, every
component and the path that is loaded for it.  Each entry bears the layer of
the text to which it belongs, so that the entries of one text and those of the
components it includes can be told apart.

Some entries are log messages (`Event.message?`); the others are kept for what
is said about renders.
-/

import BracketTemplate.Context
import BracketTemplate.Directive

namespace BracketTemplate

/-- The severity of a log message. -/
inductive Level where
  | error
  | warn
  | info
  | debug
  | trace
  deriving DecidableEq, Repr

namespace Level

/-- The name of a severity. -/
def name : Level → String
  | .error => "ERROR"
  | .warn => "WARN"
  | .info => "INFO"
  | .debug => "DEBUG"
  | .trace => "TRACE"

/-- Severities as numbers: the more there is to say, the larger. -/
def rank : Level → Nat
  | .error => 1
  | .warn => 2
  | .info => 3
  | .debug => 4
  | .trace => 5

end Level

/-- Something to be said, and the part of the program that says it. -/
structure Message where
  level : Level
  target : String
  text : String
  deriving DecidableEq, Repr

/-- One thing that a render does. -/
inductive Action where
  /-- A text with directives is begun. -/
  | began (directives : Nat)
  /-- The directive at an index is come to. -/
  | reached (index : Nat) (kind : Directive.Kind) (line : Nat)
  /-- The loop at an index opens over some items. -/
  | opened (origin items : Nat)
  /-- The loop at an index stores an element under its binding. -/
  | bound (origin : Nat) (name : String) (value : Value)
  /-- The loop at an index goes back to its start. -/
  | turned (origin : Nat)
  /-- The loop at an index has gone through its items. -/
  | closed (origin : Nat)
  /-- A component is included from a path. -/
  | included (name path : String)
  /-- A path is loaded. -/
  | loaded (path : String)
  deriving Inhabited

/-- One thing that the render of a text at a layer does. -/
structure Event where
  layer : Nat
  action : Action
  deriving Inhabited

namespace Event

/-- The part of the program that renders. -/
def engineTarget : String := "ryuji_core::template::engine"

/-- The part of the program that keeps the open loops. -/
def loopTarget : String := "ryuji_core::template::engine::frames"

/-- The part of the program that loads sources. -/
def sourceTarget : String := "ryuji_core::template::source"

/-- What is logged of an event.  Whether the loading of a path is logged, and
under which name, depends on where the sources come from (`announce?`). -/
def message? (announce? : String → Option String) (e : Event) : Option Message :=
  match e.action with
  | .began n =>
    some ⟨.debug, engineTarget, s!"rendering {n} directive(s) at layer {e.layer}"⟩
  | .reached index kind line =>
    some ⟨.trace, engineTarget, s!"directive {index} ({kind.label}) at line {line}"⟩
  | .opened origin items =>
    some ⟨.trace, loopTarget, s!"loop at directive {origin} opened with {items} item(s)"⟩
  | .closed origin => some ⟨.trace, loopTarget, s!"loop at directive {origin} closed"⟩
  | .included name path =>
    some ⟨.debug, engineTarget,
      s!"including component '{name}' from {path} at layer {e.layer + 1}"⟩
  | .loaded path =>
    (announce? path).map fun location =>
      ⟨.debug, sourceTarget, s!"loading template source {location}"⟩
  | .bound .. | .turned .. => none

end Event

end BracketTemplate
