/-
# Reading TOML strings

The four kinds of string, between quotation marks with escapes or between
apostrophes without, and on one line or on several.  On several lines a newline
after the opening marks does not count, a newline is read as one character
however it is written, one or two marks may stand anywhere, also right before
the closing ones, and a backslash at the end of a line leaves out all blanks and
newlines up to the next character.
-/

import BracketTemplate.Text.Reader

namespace BracketTemplate

namespace Toml

namespace Quoted

/-- Whether a character may stand in a text as it is: a tab, or any that is not
a control character. -/
def isPlainChar (c : Char) : Bool := c == '\t' || (' ' ≤ c && c != '\x7f')

/-- The character that an escape of one letter stands for. -/
def escape? : Char → Option Char
  | 'b' => some '\x08'
  | 't' => some '\t'
  | 'n' => some '\n'
  | 'f' => some '\x0c'
  | 'r' => some '\r'
  | '"' => some '"'
  | '\\' => some '\\'
  | _ => none

/-- Reads what follows the backslash of an escape. -/
def escaped : Reader Char
  | 'u' :: rest => code 4 rest
  | 'U' :: rest => code 8 rest
  | c :: rest => (escape? c).map (·, rest)
  | [] => none
where
  /-- Reads a code point of some hexadecimal digits. -/
  code (width : Nat) : Reader Char := fun cs => do
    if (cs.take width).length = width then
      let n ← Reader.hexNumber? (cs.take width)
      let c ← Reader.charOf? n
      return (c, cs.drop width)
    else none

/-- The text after a newline, in either way of writing it. -/
def newline? : List Char → Option (List Char)
  | '\n' :: rest => some rest
  | '\r' :: '\n' :: rest => some rest
  | _ => none

/-- Whether a character is a blank within a line. -/
def isSpace (c : Char) : Bool := c == ' ' || c == '\t'

/-- Reads the rest of a string on one line, with escapes. -/
def basicRest : (fuel : Nat) → Reader (List Char)
  | 0, _ => none
  | _, [] => none
  | fuel + 1, c :: rest =>
    if c = '"' then some ([], rest)
    else if c = '\\' then do
      let (e, rest) ← escaped rest
      let (cs, rest) ← basicRest fuel rest
      return (e :: cs, rest)
    else if isPlainChar c then do
      let (cs, rest) ← basicRest fuel rest
      return (c :: cs, rest)
    else none

/-- Reads the rest of a string on one line, without escapes. -/
def literalRest : Reader (List Char) := fun cs =>
  match cs.span fun c => isPlainChar c && c != '\'' with
  | (read, '\'' :: rest) => some (read, rest)
  | _ => none

/-- The closing marks, with up to two marks in front that belong to the text. -/
def closing? (mark : Char) (cs : List Char) : Option (List Char × List Char) :=
  let run := (cs.takeWhile (· == mark)).length
  if 3 ≤ run then
    let kept := min (run - 3) 2
    some (List.replicate kept mark, cs.drop (kept + 3))
  else none

/-- The text after a backslash that ends a line, all blanks and newlines skipped. -/
def continued? (cs : List Char) : Option (List Char) :=
  (newline? (cs.dropWhile isSpace)).map fun rest => skipGap rest.length rest
where
  /-- Passes over blanks and newlines. -/
  skipGap : (fuel : Nat) → List Char → List Char
    | 0, cs => cs
    | fuel + 1, cs =>
      match newline? cs with
      | some rest => skipGap fuel rest
      | none =>
        match cs with
        | c :: rest => if isSpace c then skipGap fuel rest else cs
        | [] => []

/-- Reads the rest of a string on several lines, with escapes or without. -/
def multilineRest (mark : Char) (escapes : Bool) : (fuel : Nat) → Reader (List Char)
  | 0, _ => none
  | _, [] => none
  | fuel + 1, c :: rest =>
    match closing? mark (c :: rest), newline? (c :: rest) with
    | some read, _ => some read
    | none, some rest => do
      let (cs, rest) ← multilineRest mark escapes fuel rest
      return ('\n' :: cs, rest)
    | none, none =>
      if escapes ∧ c = '\\' then
        match continued? rest with
        | some rest => multilineRest mark escapes fuel rest
        | none => do
          let (e, rest) ← escaped rest
          let (cs, rest) ← multilineRest mark escapes fuel rest
          return (e :: cs, rest)
      else if isPlainChar c then do
        let (cs, rest) ← multilineRest mark escapes fuel rest
        return (c :: cs, rest)
      else none

/-- Reads a string on several lines, from after its opening marks. -/
def multiline (mark : Char) (escapes : Bool) : Reader (List Char) := fun cs =>
  let cs := (newline? cs).getD cs
  multilineRest mark escapes (cs.length + 1) cs

/-- Reads a string on one line. -/
def readLine : Reader (List Char)
  | '"' :: rest => basicRest (rest.length + 1) rest
  | '\'' :: rest => literalRest rest
  | _ => none

/-- Reads a string of any kind. -/
def read : Reader (List Char)
  | '"' :: '"' :: '"' :: rest => multiline '"' true rest
  | '\'' :: '\'' :: '\'' :: rest => multiline '\'' false rest
  | cs => readLine cs

end Quoted

end Toml

end BracketTemplate
