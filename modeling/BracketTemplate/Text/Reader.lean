/-
# Reading from the front of a text

A reader takes something from the front of a list of characters and gives it
together with the rest, or refuses.  A list between brackets is read item by
item (`Reader.separated`); each item and its separator take at least one
character, so the length of the text bounds their number.
-/

namespace BracketTemplate

/-- Takes something from the front of a text and gives the rest. -/
abbrev Reader (α : Type) := List Char → Option (α × List Char)

namespace Reader

variable {α : Type}

/-- The text after a word with which it starts. -/
def word : List Char → List Char → Option (List Char)
  | [], cs => some cs
  | _ :: _, [] => none
  | c :: cs, d :: ds => if c = d then word cs ds else none

/-- Reads the characters that satisfy `p`, at least one of them. -/
def takeSome (p : Char → Bool) : Reader (List Char) := fun cs =>
  match cs.span p with
  | ([], _) => none
  | read => some read

/-- Reads the value of a hexadecimal digit of either case. -/
def hexDigit? (c : Char) : Option Nat :=
  if '0' ≤ c ∧ c ≤ '9' then some (c.toNat - '0'.toNat)
  else if 'a' ≤ c ∧ c ≤ 'f' then some (c.toNat - 'a'.toNat + 10)
  else if 'A' ≤ c ∧ c ≤ 'F' then some (c.toNat - 'A'.toNat + 10)
  else none

/-- The number that hexadecimal digits denote. -/
def hexNumber? (digits : List Char) : Option Nat :=
  digits.foldlM (fun n c => (hexDigit? c).map (16 * n + ·)) 0

/-- The character with a code point, unless it is a surrogate or too large. -/
def charOf? (code : Nat) : Option Char :=
  if h : code.isValidChar then some (Char.ofNatAux code h) else none

theorem charOf?_toNat (c : Char) : charOf? c.toNat = some c := by
  have hvalid : c.toNat.isValidChar := c.valid
  rw [charOf?, dif_pos hvalid]
  rfl

/-- Reads items with `,` between two of them up to the bracket `close`; `skip`
passes over what may stand around items and commas. -/
def separated (skip : List Char → Option (List Char)) (close : Char) (item : Reader α) :
    (fuel : Nat) → Reader (List α)
  | 0, _ => none
  | fuel + 1, cs => do
    let (x, cs) ← item cs
    match ← skip cs with
    | c :: cs =>
      if c = ',' then
        let cs ← skip cs
        let (xs, cs) ← separated skip close item fuel cs
        return (x :: xs, cs)
      else if c = close then return ([x], cs)
      else none
    | [] => none

end Reader

end BracketTemplate
