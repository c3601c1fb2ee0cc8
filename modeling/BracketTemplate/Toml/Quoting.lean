/-
# Writing TOML strings

A string is written in the first of these forms that can hold it without
escapes, tabs apart, and if there is none, with escapes.  `Toml.Quoted.read`
reads every one of them back.

| form | holds |
| --- | --- |
| `"…"` | no quotation mark, backslash, newline or other control character |
| `'…'` | no apostrophe, newline or other control character |
| `"""…"""` | no three quotation marks in a row, backslash or control character but newline |
| `'''…'''` | no three apostrophes in a row or control character but newline |

A string that has a newline begins on the line after the opening marks.
-/

namespace BracketTemplate

namespace Toml

namespace Quoting

/-- The longest run of a character. -/
def longestRun (mark : Char) : (run : Nat) → List Char → Nat
  | run, [] => run
  | run, c :: rest =>
    if c = mark then longestRun mark (run + 1) rest else max run (longestRun mark 0 rest)

/-- Whether a character is a control character that can only be written as an
escape where newlines and tabs cannot be helped. -/
def isControl (c : Char) : Bool := (c < ' ' && c != '\t' && c != '\n') || c == '\x7f'

/-- A digit of base sixteen, in upper case. -/
def hexChar (n : Nat) : Char := (Nat.digitChar n).toUpper

/-- A control character as an escape with its code point. -/
def codeEscape (c : Char) : List Char :=
  ['\\', 'u', '0', '0', hexChar (c.toNat / 16), hexChar (c.toNat % 16)]

/-- A character other than a quotation mark as it stands between quotation marks. -/
def spelled (multiline : Bool) (c : Char) : List Char :=
  if c = '\x08' then ['\\', 'b']
  else if c = '\t' then ['\\', 't']
  else if c = '\n' then if multiline then [c] else ['\\', 'n']
  else if c = '\x0c' then ['\\', 'f']
  else if c = '\r' then ['\\', 'r']
  else if c = '\\' then ['\\', '\\']
  else if c < ' ' ∨ c = '\x7f' then codeEscape c
  else [c]

/-- A string between quotation marks, one or three, without those marks.  Of
`limit + 1` quotation marks in a row the last is escaped. -/
def escape (multiline : Bool) (limit : Nat) : (run : Nat) → List Char → List Char
  | _, [] => []
  | run, c :: rest =>
    if c = '"' then
      if run < limit then c :: escape multiline limit (run + 1) rest
      else '\\' :: '"' :: escape multiline limit 0 rest
    else spelled multiline c ++ escape multiline limit 0 rest

/-- The forms of a string. -/
inductive Form where
  | basic
  | literal
  | multilineBasic
  | multilineLiteral
  deriving DecidableEq, Repr

/-- The form in which a string is written. -/
def formOf (s : List Char) : Form :=
  let control := s.any isControl
  let backslash := s.contains '\\'
  let newline := s.contains '\n'
  let quotes := longestRun '"' 0 s
  let apostrophes := longestRun '\'' 0 s
  if !control && !backslash && quotes == 0 && !newline then .basic
  else if !control && apostrophes == 0 && !newline then .literal
  else if !control && !backslash && quotes ≤ 2 then .multilineBasic
  else if !control && apostrophes ≤ 2 then .multilineLiteral
  else if newline then .multilineBasic
  else .basic

/-- Puts a string between marks, on a line of its own if it has a newline. -/
def between (marks s : List Char) (newline : Bool) : List Char :=
  marks ++ (if newline then '\n' :: s else s) ++ marks

/-- A string as it is written. -/
def quote (s : List Char) : List Char :=
  let newline := s.contains '\n'
  match formOf s with
  | .basic => between ['"'] (escape false 0 0 s) false
  | .literal => between ['\''] s false
  | .multilineBasic => between ['"', '"', '"'] (escape true 2 0 s) newline
  | .multilineLiteral => between ['\'', '\'', '\''] s newline

end Quoting

end Toml

end BracketTemplate
