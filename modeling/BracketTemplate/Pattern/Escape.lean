/-
# What follows a backslash

| written | means |
| --- | --- |
| `\n`, `\t`, … | a control character |
| `\.`, `\ `, … | a character other than a letter, a digit, `<` or `>`, itself |
| `\x41`, `\u0041`, `\U00000041`, `\x{41}` | the character with a code point |
| `\d`, `\pL`, … | a class |
| `\b`, `\A`, `\b{start}`, `\<`, … | an assertion |

Digits would refer to groups, which is not supported.
-/

import BracketTemplate.Decimal.Basic
import BracketTemplate.Pattern.Cursor
import BracketTemplate.Pattern.Syntax
import BracketTemplate.Text.Reader

namespace BracketTemplate

namespace Pattern

namespace Escape

open Reading

/-- The control character that a letter stands for. -/
def control? : Char → Option Char
  | 'a' => some '\x07'
  | 'f' => some '\x0c'
  | 't' => some '\t'
  | 'n' => some '\n'
  | 'r' => some '\r'
  | 'v' => some '\x0b'
  | _ => none

/-- The assertion that a character stands for. -/
def assertion? : Char → Option Assertion
  | 'A' => some .textStart
  | 'z' => some .textEnd
  | 'b' => some .boundary
  | 'B' => some .noBoundary
  | '<' => some .wordStart
  | '>' => some .wordEnd
  | _ => none

/-- The class that a letter stands for, and whether it is meant negated. -/
def shorthand? : Char → Option (Shorthand × Bool)
  | 'd' => some (.digit, false)
  | 's' => some (.space, false)
  | 'w' => some (.word, false)
  | 'D' => some (.digit, true)
  | 'S' => some (.space, true)
  | 'W' => some (.word, true)
  | _ => none

/-- Whether a character stands for itself after a backslash. -/
def isItself (c : Char) : Bool := c < '\x80' && !c.isAlphanum && c != '<' && c != '>'

/-- The number of digits of a code point after a letter. -/
def digitCount? : Char → Option Nat
  | 'x' => some 2
  | 'u' => some 4
  | 'U' => some 8
  | _ => none

/-- Whether a character is a hexadecimal digit. -/
def isHexDigit (c : Char) : Bool := (Reader.hexDigit? c).isSome

/-- Reads a number of hexadecimal digits. -/
def hexDigits : Nat → Reading (List Char)
  | 0 => return []
  | n + 1 => do
    match ← here? with
    | none => refuse .escapeEnds (← nothing)
    | some c =>
      if isHexDigit c then
        advancePastSpace
        return c :: (← hexDigits n)
      else refuse .hexDigitInvalid (← thisChar)

/-- The character with a code point in hexadecimal digits. -/
def charOf (digits : List Char) (span : Span) : Reading Char :=
  match (Reader.hexNumber? digits).bind Reader.charOf? with
  | some c => return c
  | none => refuse .hexNoCharacter span

/-- Reads a code point in braces, from its opening brace. -/
def bracedCodePoint : Reading Char := do
  let brace ← place
  let first := (← thisChar).stop
  advancePastSpace
  let digits ← takeWhile isHexDigit (← size)
  match ← here? with
  | none => refuse .escapeEnds (← since brace)
  | some '\x7d' =>
    let span ← since first
    advancePastSpace
    if digits = [] then refuse .hexEmpty (← since brace)
    charOf digits span
  | some _ => refuse .hexDigitInvalid (← thisChar)

/-- Reads a code point, from the letter that announces it with some digits. -/
def codePoint (backslash : Position) (count : Nat) : Reading Node := do
  advancePastSpace
  match ← here? with
  | none => refuse .escapeEnds (← nothing)
  | some '\x7b' =>
    let c ← bracedCodePoint
    return .literal ⟨← since backslash, c, false⟩
  | some _ =>
    let first ← place
    let digits ← hexDigits count
    let c ← charOf digits (← since first)
    return .literal ⟨← since backslash, c, count == 2⟩

/-- Reads a property, from the letter that announces it. -/
def property (backslash : Position) : Reading Node := do
  advancePastSpace
  match ← here? with
  | none => refuse .escapeEnds (← nothing)
  | some '\x7b' =>
    advancePastSpace
    let name ← takeWhile (· != '\x7d') (← size)
    if (← here?).isNone then refuse .escapeEnds (← nothing)
    advance
    return .property ⟨← since backslash, name⟩
  | some '\\' => refuse .propertyInvalid (← thisChar)
  | some c =>
    advancePastSpace
    return .property ⟨← since backslash, [c]⟩

/-- Whether a character occurs in the name of a special boundary. -/
def isBoundaryChar (c : Char) : Bool := c.isAlpha || c == '-'

/-- The boundary with a name. -/
def specialBoundary? (name : List Char) : Option Assertion :=
  match String.ofList name with
  | "start" => some .wordStart
  | "end" => some .wordEnd
  | "start-half" => some .wordStartHalf
  | "end-half" => some .wordEndHalf
  | _ => none

/-- Reads the name of a special boundary, from an opening brace.  If none begins
there, the brace is left for a count. -/
def boundaryName? (backslash : Position) : Reading (Option Assertion) := do
  let before ← get
  advanceInside .boundaryOrCountEnds fun stop => ⟨backslash, stop⟩
  let first ← place
  if !((← here?).any isBoundaryChar) then
    set before
    return none
  let name ← takeWhile isBoundaryChar (← size)
  if (← here?) ≠ some '\x7d' then refuse .boundaryUnclosed (← since before.position)
  let span ← since first
  advance
  match specialBoundary? name with
  | some kind => return some kind
  | none => refuse .boundaryUnknown span

/-- Reads an escape, from its backslash. -/
def read : Reading Node := do
  let backslash ← place
  advance
  match ← here? with
  | none => refuse .escapeEnds (← since backslash)
  | some c =>
    if Decimal.isDigit c then
      refuse .backReference ⟨backslash, (← thisChar).stop⟩
    else if let some count := digitCount? c then codePoint backslash count
    else if c = 'p' ∨ c = 'P' then property backslash
    else
      advance
      let span ← since backslash
      if isItself c then return .literal ⟨span, c, false⟩
      else if let some d := control? c then return .literal ⟨span, d, false⟩
      else if let some (kind, negated) := shorthand? c then return .shorthand span kind negated
      else if let some kind := assertion? c then
        if c = 'b' ∧ (← here?) = some '\x7b' then
          match ← boundaryName? backslash with
          | some kind => return .assertion (← since backslash) kind
          | none => return .assertion span kind
        else return .assertion span kind
      else refuse .escapeUnknown span

end Escape

end Pattern

end BracketTemplate
