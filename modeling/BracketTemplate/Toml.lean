/-
# TOML values

A TOML value.  As a value of a template variable a moment is the text that it
prints as; everything else has a counterpart.  As a context, a table is a table of
variables and everything else is refused.
-/

import BracketTemplate.Json
import BracketTemplate.Toml.Moment

namespace BracketTemplate

/-- A TOML value. -/
inductive Toml where
  | string (s : String)
  | integer (n : Int)
  | float (x : Float)
  | boolean (b : Bool)
  | moment (m : Moment)
  | array (items : List Toml)
  | table (entries : List (String × Toml))
  deriving Inhabited

mutual

/-- The value that a TOML value stands for. -/
def Value.ofToml : Toml → Value
  | .string s => .string s
  | .integer n => .integer n
  | .float x => .float x
  | .boolean b => .bool b
  | .moment m => .string m.text
  | .array items => .sequence (Value.listOfToml items)
  | .table entries => .mapping (Value.entriesOfToml entries)

/-- The values that a list of TOML values stands for. -/
def Value.listOfToml : List Toml → List Value
  | [] => []
  | t :: rest => Value.ofToml t :: Value.listOfToml rest

/-- The entries that the entries of a table stand for. -/
def Value.entriesOfToml : List (String × Toml) → List (String × Value)
  | [] => []
  | (name, t) :: rest => (name, Value.ofToml t) :: Value.entriesOfToml rest

end

/-- The context of a TOML table. -/
def Context.ofToml (t : Toml) : Except ContextError Context :=
  match Value.ofToml t with
  | .mapping entries => .ok ⟨entries⟩
  | _ => .error .notATable

end BracketTemplate
