/-
# Reading variables

A directive names a variable by letters, digits and `_`, with dots between the
segments of a dotted name; the name that a loop binds has no dots.  The name is
checked before it is looked up, so a name with `-` is illegal whether or not the
context has such an entry.
-/

import BracketTemplate.Context
import BracketTemplate.Render.Error

namespace BracketTemplate

namespace Variable

/-- Whether a character may stand in the name of a variable, dots apart. -/
def isNameChar (c : Char) : Bool := c.isAlphanum || c == '_'

/-- Whether a text may name a binding. -/
def isBindingName (name : String) : Bool := name.toList.all isNameChar

/-- Whether a text may be a dotted name. -/
def isDottedName (name : String) : Bool := name.toList.all fun c => isNameChar c || c == '.'

/-- A name for a binding, checked. -/
def bindingName (name : String) : Except RenderError String :=
  if isBindingName name then .ok name else .error (.illegalVariableName name)

/-- The value that a dotted name reaches. -/
def read (context : Context) (name : String) : Except RenderError Value :=
  if isDottedName name then
    match context.lookup? name with
    | some value => .ok value
    | none => .error (.undefinedVariable name)
  else .error (.illegalVariableName name)

/-- The text of the value that a dotted name reaches. -/
def print (context : Context) (name : String) : Except RenderError String := do
  let value ← read context name
  match value.text? with
  | some text => .ok text
  | none => .error (.unprintableValue name)

/-- The elements of the sequence that a dotted name reaches, for a loop on `line`. -/
def readItems (context : Context) (name : String) (line : Nat) :
    Except RenderError (List Value) := do
  let value ← read context name
  match value.items? with
  | some items => .ok items
  | none => .error (.notASequence name line)

end Variable

end BracketTemplate
