/-
# Classes in brackets

`[a-z_]` is one of some characters and `[^a-z_]` any other.  Inside may stand
further classes, in brackets or by name, and operators between two of them,
which are carried out from left to right.

| written | means |
| --- | --- |
| `a`, `\n`, `\x41` | a character |
| `a-z` | the characters from one to another |
| `\d`, `[:alpha:]`, `[:^alpha:]`, `[xyz]` | the characters of a class |
| `x&&y`, `x--y`, `x~~y` | those of both, of the first only, of one only |

A `]` in front and a `-` in front or at the end stand for themselves, so that no
class is empty.  A class that is not closed is complained about with its opening
part, as far as that goes.
-/

import BracketTemplate.Pattern.Escape

namespace BracketTemplate

namespace Pattern

namespace Bracket

open Reading

/-- The parts of a class between two operators. -/
structure Union where
  /-- The place where the parts begin. -/
  start : Position
  items : List ClassItem

/-- A union with one part more. -/
def Union.push (u : Union) (item : ClassItem) : Union := { u with items := u.items ++ [item] }

/-- A union as one part. -/
def Union.item (u : Union) : ClassItem :=
  match u.items with
  | [] => .empty ⟨u.start, u.start⟩
  | [item] => item
  | first :: rest =>
    .union ⟨first.span.start, (rest.getLast?.getD first).span.stop⟩ (first :: rest)

/-- What stands in front of an operator, with the operator. -/
abbrev Pending := Option (ClassItem × ClassOperator)

/-- A part with what stands in front of it. -/
def combine (pending : Pending) (right : ClassItem) : ClassItem :=
  match pending with
  | none => right
  | some (left, operator) =>
    .operation ⟨left.span.start, right.span.stop⟩ operator left right

/-- The operator that two characters are. -/
def operator? : List Char → Option ClassOperator
  | '&' :: '&' :: _ => some .intersection
  | '-' :: '-' :: _ => some .difference
  | '~' :: '~' :: _ => some .symmetricDifference
  | _ => none

/-- A part of a class that a pattern can be. -/
def itemOf : Node → Reading ClassItem
  | .literal l => return .literal l
  | .property p => return .property p
  | .shorthand span kind negated => return .shorthand span kind negated
  | node => refuse .classEscape node.span

/-- A bound of a range that a pattern can be. -/
def boundOf : Node → Reading Literal
  | .literal l => return l
  | node => refuse .classBound node.span

/-- Reads a character or an escape. -/
def atom : Reading Node := do
  match ← here? with
  | some '\\' => Escape.read
  | some c =>
    let span ← thisChar
    advance
    return .literal ⟨span, c, false⟩
  | none => return .empty (← nothing)

/-- Reads a character, a range or a class with a letter, in a class that begins
with `opening`. -/
def part (opening : Span) : Reading ClassItem := do
  let first ← atom
  skip
  match ← here? with
  | none => refuse .classUnclosed opening
  | some c =>
    let second := (← get).second?
    if c ≠ '-' ∨ second = some ']' ∨ second = some '-' then itemOf first
    else
      advanceInside .classUnclosed fun _ => opening
      let last ← atom
      let span : Span := ⟨first.span.start, last.span.stop⟩
      let first ← boundOf first
      let last ← boundOf last
      if last.char < first.char then refuse .classReversed span
      return .range span first last

/-- The class with a name that some characters begin with: its name, whether it
is meant negated, and how many characters it takes. -/
def named? (rest : List Char) : Option (ClassName × Bool × Nat) :=
  match rest with
  | '[' :: ':' :: rest =>
    let negated := rest.head? = some '^'
    let name := (if negated then rest.drop 1 else rest).takeWhile (· != ':')
    let size := (if negated then 3 else 2) + name.length
    if [':', ']'].isPrefixOf (rest.drop (size - 2)) then
      (ClassName.ofText? name).map fun name => (name, negated, size + 2)
    else none
  | _ => none

/-- Reads hyphens that stand for themselves. -/
def hyphens (start : Position) : (fuel : Nat) → Reading (List ClassItem)
  | 0 => return []
  | fuel + 1 => do
    if (← here?) = some '-' then
      let hyphen := ClassItem.literal ⟨← thisChar, '-', false⟩
      advanceInside .classUnclosed fun _ => ⟨start, start⟩
      return hyphen :: (← hyphens start fuel)
    else return []

/-- Reads the opening part of a class: whether it is negated, and the parts that
stand for themselves there. -/
def opening : Reading (Bool × Union) := do
  let start ← place
  let inside := advanceInside .classUnclosed fun stop => ⟨start, stop⟩
  inside
  let negated := (← here?) = some '^'
  if negated then inside
  let first ← place
  let items ← hyphens start (← size)
  if items = [] ∧ (← here?) = some ']' then
    let bracket := ClassItem.literal ⟨← thisChar, ']', false⟩
    inside
    return (negated, ⟨first, [bracket]⟩)
  else return (negated, ⟨first, items⟩)

mutual

/-- Reads a class, from its bracket. -/
def read : (fuel : Nat) → Reading (Span × Bool × ClassItem)
  | 0 => return (← nothing, false, .empty (← nothing))
  | fuel + 1 => do
    let start ← place
    let (negated, union) ← opening
    let body ← parts (← since start) fuel none union
    advance
    return (← since start, negated, body)

/-- Reads the parts of a class up to its closing bracket. -/
def parts (opening : Span) : (fuel : Nat) → Pending → Union → Reading ClassItem
  | 0, pending, union => return combine pending union.item
  | fuel + 1, pending, union => do
    skip
    match (← get).rest with
    | [] => refuse .classUnclosed opening
    | ']' :: _ => return combine pending union.item
    | '[' :: rest =>
      if let some (name, negated, size) := named? ('[' :: rest) then
        let start ← place
        for _ in List.range size do advance
        parts opening fuel pending (union.push (.named (← since start) name negated))
      else
        let (span, negated, body) ← read fuel
        parts opening fuel pending (union.push (.bracketed span negated body))
    | rest =>
      if let some operator := operator? rest then
        advance
        advance
        parts opening fuel (some (combine pending union.item, operator)) ⟨← place, []⟩
      else
        let item ← part opening
        parts opening fuel pending (union.push item)

end

end Bracket

end Pattern

end BracketTemplate
