/-
# Reading along a pattern

A `Cursor` stands in front of what is left of a pattern and knows its place.  If
white space does not count, neither do comments, which go from a `#` to the end
of the line.  Names of groups are kept, as each may be given once.
-/

import BracketTemplate.Pattern.Complaint
import BracketTemplate.Text.Blank

namespace BracketTemplate

namespace Pattern

/-- How far a pattern has been read. -/
structure Cursor where
  rest : List Char
  position : Position
  /-- Whether white space and comments do not count. -/
  spaced : Bool
  /-- The names of groups so far, with their places. -/
  names : List (List Char × Span)
  deriving Repr, Inhabited

namespace Cursor

/-- The cursor in front of a pattern. -/
def start (pattern : List Char) : Cursor := ⟨pattern, .first, false, []⟩

/-- The cursor past one character. -/
def next (c : Cursor) : Cursor :=
  match c.rest with
  | [] => c
  | d :: rest => { c with rest := rest, position := c.position.after d }

/-- What is left past white space and comments, and its place. -/
def pastSpace : (inComment : Bool) → List Char → Position → List Char × Position
  | _, [], p => ([], p)
  | true, d :: rest, p => pastSpace (d != '\n') rest (p.after d)
  | false, d :: rest, p =>
    if Text.isBlankChar d then pastSpace false rest (p.after d)
    else if d = '#' then pastSpace true rest (p.after d)
    else (d :: rest, p)

/-- The cursor past white space and comments, if they do not count. -/
def skip (c : Cursor) : Cursor :=
  if c.spaced then
    let (rest, position) := pastSpace false c.rest c.position
    { c with rest := rest, position := position }
  else c

/-- The first character that is neither white space nor the start of a comment. -/
def firstShown? : (inComment : Bool) → List Char → Option Char
  | _, [] => none
  | inComment, d :: rest =>
    if Text.isBlankChar d then firstShown? inComment rest
    else if d = '#' ∧ !inComment then firstShown? true rest
    else some d

/-- The character after the one here, past white space if that does not count. -/
def second? (c : Cursor) : Option Char :=
  let rest := c.rest.drop 1
  if c.spaced then (firstShown? false rest).or rest.head? else rest.head?

end Cursor

/-- Reads something from a pattern, or complains. -/
abbrev Reading := StateT Cursor (Except Complaint)

namespace Reading

/-- Complains. -/
def refuse {α : Type} (flaw : Flaw) (span : Span) : Reading α := throw ⟨flaw, span⟩

/-- The character here. -/
def here? : Reading (Option Char) := return (← get).rest.head?

/-- The place here. -/
def place : Reading Position := return (← get).position

/-- The piece from a place up to here. -/
def since (start : Position) : Reading Span := return ⟨start, ← place⟩

/-- The piece without characters that is here. -/
def nothing : Reading Span := do since (← place)

/-- The piece with the character here. -/
def thisChar : Reading Span := return ⟨← place, (← get).next.position⟩

/-- Goes past the character here. -/
def advance : Reading Unit := modify Cursor.next

/-- Goes past white space, if it does not count. -/
def skip : Reading Unit := modify Cursor.skip

/-- Goes past the character here and white space. -/
def advancePastSpace : Reading Unit := do
  advance
  skip

/-- Goes past the character here and white space, and complains at the end. -/
def advanceInside (flaw : Flaw) (span : Position → Span) : Reading Unit := do
  advancePastSpace
  if (← here?).isNone then refuse flaw (span (← place))

/-- Goes past a word, if it is here. -/
def eat (word : List Char) : Reading Bool := do
  if word.isPrefixOf (← get).rest then
    for _ in word do advance
    return true
  else return false

/-- The characters from here on that satisfy `p`, with white space after each. -/
def takeWhile (p : Char → Bool) : (fuel : Nat) → Reading (List Char)
  | 0 => return []
  | fuel + 1 => do
    match ← here? with
    | some d =>
      if p d then
        advancePastSpace
        return d :: (← takeWhile p fuel)
      else return []
    | none => return []

/-- The number of characters that are left. -/
def size : Reading Nat := return (← get).rest.length

end Reading

end Pattern

end BracketTemplate
