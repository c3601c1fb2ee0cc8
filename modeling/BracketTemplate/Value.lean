/-
# Values

What a template variable can hold.  Scalars print; sequences drive loops and
print as their elements; mappings are reached through dotted names.

| value | true in a condition | text |
| --- | --- | --- |
| null | no | none |
| boolean | as it says | `true`, `false` |
| integer, floating-point number | unless zero or not a number | its decimal notation |
| string | unless empty | itself |
| sequence | yes, even when empty | its elements joined with `,`, a null among them as nothing |
| mapping | yes, even when empty | none, nor has a sequence that holds one |
-/

import BracketTemplate.Decimal.Positional
import BracketTemplate.Entries

namespace BracketTemplate

/-- A value of a template variable. -/
inductive Value where
  | null
  | bool (b : Bool)
  | integer (n : Int)
  | float (x : Float)
  | string (s : String)
  | sequence (items : List Value)
  | mapping (entries : List (String × Value))
  deriving Inhabited

namespace Value

/-- Whether an integer has at most 64 bits with its sign, as those of values do. -/
def isInteger64 (n : Int) : Bool := -Int.pow 2 63 ≤ n && n < Int.pow 2 63

/-- Whether a condition on the value holds. -/
def isTruthy : Value → Bool
  | .null => false
  | .bool b => b
  | .integer n => n != 0
  | .float x => x != 0.0 && !x.isNaN
  | .string s => s != ""
  | .sequence _ | .mapping _ => true

/-- The number of elements; a scalar has none to count. -/
def size? : Value → Option Nat
  | .sequence items => some items.length
  | .mapping entries => some entries.length
  | _ => none

/-- Whether a sequence or mapping is empty. -/
def isEmpty? (v : Value) : Option Bool := v.size?.map (· == 0)

/-- The elements of a sequence. -/
def items? : Value → Option (List Value)
  | .sequence items => some items
  | _ => none

/-- The largest position that a segment can name. -/
def maxIndex : Nat := Nat.pow 2 64 - 1

/-- The position that a segment of a dotted name denotes: decimal digits, with
`+` in front if one likes, for a number of at most 64 bits. -/
def index? (segment : String) : Option Nat :=
  let digits :=
    match segment.toList with
    | '+' :: rest => rest
    | cs => cs
  if digits ≠ [] ∧ digits.all Decimal.isDigit then
    let n := Decimal.ofDigits digits
    if n ≤ maxIndex then some n else none
  else none

/-- One step of a dotted name: the entry of a mapping, or the element of a
sequence at a position. -/
def child? : Value → String → Option Value
  | .mapping entries, segment => Entries.find? segment entries
  | .sequence items, segment => (index? segment).bind (items[·]?)
  | _, _ => none

/-- What a list of segments reaches, one after another. -/
def walk? : Value → List String → Option Value
  | v, [] => some v
  | v, segment :: rest => (v.child? segment).bind (walk? · rest)

mutual

/-- The text that a value prints as. -/
def text? : Value → Option String
  | .null | .mapping _ => none
  | .bool b => some (if b then "true" else "false")
  | .integer n => some (Decimal.intText n)
  | .float x => some (Decimal.floatText x)
  | .string s => some s
  | .sequence items => (itemTexts? items).map (String.intercalate ",")

/-- The texts of the elements of a sequence, if all have one. -/
def itemTexts? : List Value → Option (List String)
  | [] => some []
  | v :: rest =>
    match v with
    | .null => (itemTexts? rest).map ("" :: ·)
    | v => (text? v).bind fun t => (itemTexts? rest).map (t :: ·)

end

@[simp] theorem walk?_nil (v : Value) : v.walk? [] = some v := by cases v <;> rfl

/-- A walk over two lists of segments is one walk after the other. -/
theorem walk?_append (v : Value) (p q : List String) :
    v.walk? (p ++ q) = (v.walk? p).bind (·.walk? q) := by
  induction p generalizing v with
  | nil => simp
  | cons segment rest ih =>
    simp only [List.cons_append, walk?, Option.bind_assoc]
    congr 1
    funext w
    exact ih w

end Value

end BracketTemplate
