/-
# Why a render fails

Each way in which a render can fail, with what its message needs.  The name of
a block in a message is the keyword of the directive at fault, and lines count
from 1 in the text that holds it.
-/

import BracketTemplate.Directive

namespace BracketTemplate

/-- Why a render failed. -/
inductive RenderError where
  /-- A directive lacks its first argument. -/
  | missingArgument (keyword : String) (line : Nat)
  /-- A name has a character that no variable name has. -/
  | illegalVariableName (name : String)
  /-- A name reaches no value. -/
  | undefinedVariable (name : String)
  /-- A block is opened and not closed. -/
  | unterminatedBlock (keyword : String) (line : Nat)
  /-- A loop is closed where none is open. -/
  | unmatchedClose (keyword : String) (line : Nat)
  /-- A loop runs over something other than a sequence. -/
  | notASequence (name : String) (line : Nat)
  /-- A value to be printed has no text. -/
  | unprintableValue (name : String)
  /-- A component would be rendered deeper than layer `max`. -/
  | excessiveRecursion (component : String) (layer max : Nat)
  /-- One text took more than `limit` steps. -/
  | stepLimitExceeded (limit : Nat)
  /-- A source could not be loaded. -/
  | sourceUnavailable (path reason : String)
  deriving DecidableEq, Repr, Inhabited

namespace RenderError

/-- What is said about the failure. -/
def message : RenderError → String
  | .missingArgument keyword line =>
    s!"`{keyword}:` directive at line {line} is missing its argument"
  | .illegalVariableName name => s!"Variable name \"{name}\" has illegal characters"
  | .undefinedVariable name => s!"Variable \"{name}\" is undefined"
  | .unterminatedBlock keyword line =>
    s!"`{keyword}` block opened at line {line} is missing an `[[ end{keyword} ]]`"
  | .unmatchedClose keyword line =>
    s!"`[[ {keyword} ]]` at line {line} has no open block to close"
  | .notASequence name line =>
    s!"`for` at line {line} cannot iterate \"{name}\": value is not a sequence"
  | .unprintableValue name => s!"Variable \"{name}\" is null or a mapping and cannot be printed"
  | .excessiveRecursion component layer max =>
    s!"Component \"{component}\" would render at layer {layer} (max {max}); " ++
      "components may be referencing each other in an infinite loop"
  | .stepLimitExceeded limit =>
    s!"Template rendering exceeded {limit} directive steps. Check for runaway loops."
  | .sourceUnavailable path reason => s!"Cannot read template source '{path}': {reason}"

end RenderError

/-- The argument at a position, which the directive cannot do without. -/
def Directive.requiredArgument (d : Directive) (i : Nat) : Except RenderError String :=
  match d.argument? i with
  | some argument => .ok argument
  | none => .error (.missingArgument d.keyword d.line)

end BracketTemplate
