/-
# JSON values

A JSON value.  Numbers without fraction and exponent that fit into 64 bits are
integers, from `-2^63` to `2^64 - 1`; all others are floating-point numbers.
As a context, an object is a table of variables and everything else is refused;
an integer beyond the signed 64 bits becomes the nearest floating-point number.
-/

import BracketTemplate.Context
import BracketTemplate.Decimal.Nearest

namespace BracketTemplate

/-- A JSON value. -/
inductive Json where
  | null
  | bool (b : Bool)
  | integer (n : Int)
  | float (x : Float)
  | string (s : String)
  | array (items : List Json)
  | object (members : List (String × Json))
  deriving Inhabited

/-- The floating-point number nearest to an integer. -/
def Decimal.nearestInt (n : Int) : Float :=
  let magnitude := Decimal.nearest ⟨n.natAbs, 0⟩
  if n < 0 then -magnitude else magnitude

mutual

/-- The value that a JSON value stands for. -/
def Value.ofJson : Json → Value
  | .null => .null
  | .bool b => .bool b
  | .integer n => if Value.isInteger64 n then .integer n else .float (Decimal.nearestInt n)
  | .float x => .float x
  | .string s => .string s
  | .array items => .sequence (Value.listOfJson items)
  | .object members => .mapping (Value.entriesOfJson members)

/-- The values that a list of JSON values stands for. -/
def Value.listOfJson : List Json → List Value
  | [] => []
  | j :: rest => Value.ofJson j :: Value.listOfJson rest

/-- The entries that the members of an object stand for. -/
def Value.entriesOfJson : List (String × Json) → List (String × Value)
  | [] => []
  | (name, j) :: rest => (name, Value.ofJson j) :: Value.entriesOfJson rest

end

/-- Why a context is refused. -/
inductive ContextError where
  /-- A text is not JSON. -/
  | malformedJson
  /-- A text is not TOML. -/
  | malformedToml
  /-- A JSON value is not an object. -/
  | notAnObject
  /-- A TOML value is not a table. -/
  | notATable
  deriving DecidableEq, Repr, Inhabited

/-- What is said about a context that is refused. -/
def ContextError.message : ContextError → String
  | .malformedJson => "CONTEXT_INVALID: JSON error"
  | .malformedToml => "CONTEXT_INVALID: TOML parse error"
  | .notAnObject => "CONTEXT_INVALID: top-level JSON value must be an object"
  | .notATable => "CONTEXT_INVALID: top-level TOML value must be a table"

/-- The context of a JSON object. -/
def Context.ofJson (j : Json) : Except ContextError Context :=
  match Value.ofJson j with
  | .mapping entries => .ok ⟨entries⟩
  | _ => .error .notAnObject

end BracketTemplate
