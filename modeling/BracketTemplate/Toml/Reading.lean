/-
# Reading TOML

`Toml.read?` reads a TOML text: assignments, sections and comments on lines of
their own.  The reader takes the text apart into assignments and sections, with
an inline table put together as soon as it is read, and the tables are put
together at the end (`Toml.ofSections?`).  Arrays and inline tables are nested
at most `maxDepth` deep, and a dotted key has at most as many segments.
-/

import BracketTemplate.Toml.Marked
import BracketTemplate.Toml.Number
import BracketTemplate.Toml.Quoted
import BracketTemplate.Toml.Table

namespace BracketTemplate

namespace Toml

/-- How deep arrays and inline tables may be nested, and how long a key may be. -/
def maxDepth : Nat := 79

/-- Passes over the blanks of a line. -/
def skipSpace (cs : List Char) : List Char := cs.dropWhile Quoted.isSpace

/-- Passes over a comment, if there is one. -/
def skipComment : List Char → List Char
  | '#' :: rest => rest.dropWhile Quoted.isPlainChar
  | cs => cs

/-- The text after the end of a line, on which only a comment may still stand. -/
def lineEnd? (cs : List Char) : Option (List Char) :=
  match skipComment (skipSpace cs) with
  | [] => some []
  | cs => Quoted.newline? cs

/-- Passes over blanks, comments and newlines, as many as there are. -/
def skipLines : (fuel : Nat) → List Char → Option (List Char)
  | 0, cs => some cs
  | fuel + 1, cs =>
    match skipSpace cs with
    | [] => some []
    | '#' :: rest => do skipLines fuel (← lineEnd? ('#' :: rest))
    | c :: rest =>
      match Quoted.newline? (c :: rest) with
      | some rest => skipLines fuel rest
      | none => some (c :: rest)

/-- Passes over blanks, comments and newlines. -/
def skipGap (cs : List Char) : Option (List Char) := skipLines (cs.length + 1) cs

/-- Whether a character may stand in a key without quotes. -/
def isBareKeyChar (c : Char) : Bool := c.isAlphanum || c == '-' || c == '_'

/-- Reads one segment of a key. -/
def segment : Reader String := fun cs =>
  let read :=
    match cs with
    | '"' :: _ | '\'' :: _ => Quoted.readLine cs
    | _ => Reader.takeSome isBareKeyChar cs
  read.map fun (name, rest) => (String.ofList name, rest)

/-- Reads the segments of a key, with blanks around each. -/
def segments : (fuel : Nat) → Reader (List String)
  | 0, _ => none
  | fuel + 1, cs => do
    let (name, cs) ← segment (skipSpace cs)
    match skipSpace cs with
    | '.' :: cs =>
      let (names, cs) ← segments fuel cs
      return (name :: names, cs)
    | cs => return ([name], cs)

/-- Reads a key: the segments that lead to a table, and the last one. -/
def key : Reader (List String × String) := fun cs => do
  let (names, cs) ← segments maxDepth cs
  let last ← names.getLast?
  return ((names.dropLast, last), cs)

/-- Reads a value that is neither array nor inline table. -/
def scalar : Reader Toml := fun cs =>
  match cs with
  | '"' :: _ | '\'' :: _ => (Quoted.read cs).map fun (s, rest) => (.string (String.ofList s), rest)
  | 't' :: _ => (Reader.word ['t', 'r', 'u', 'e'] cs).map (.boolean true, ·)
  | 'f' :: _ => (Reader.word ['f', 'a', 'l', 's', 'e'] cs).map (.boolean false, ·)
  | _ =>
    match Moment.read cs with
    | some (m, rest) => some (.moment m, rest)
    | none => Number.read cs

/-- Reads the items of an array, from after its opening bracket.  A comma may
stand after the last one. -/
def arrayRest (value : Reader Toml) : (fuel : Nat) → Reader (List Toml)
  | 0, _ => none
  | fuel + 1, cs => do
    match ← skipGap cs with
    | ']' :: cs => return ([], cs)
    | cs =>
      let (t, cs) ← value cs
      match ← skipGap cs with
      | ']' :: cs => return ([t], cs)
      | ',' :: cs =>
        let (ts, cs) ← arrayRest value fuel cs
        return (t :: ts, cs)
      | _ => none

/-- Reads a key and its value. -/
def assignment (value : Reader Toml) : Reader Assignment := fun cs => do
  let ((path, name), cs) ← key cs
  match cs with
  | '=' :: cs =>
    let (t, cs) ← value (skipSpace cs)
    return (⟨path, name, t⟩, cs)
  | _ => none

/-- Reads an inline table, from after its opening brace. -/
def inlineTable (value : Reader Toml) : Reader (List (String × Toml)) := fun cs =>
  match skipSpace cs with
  | '\x7d' :: rest => some ([], rest)
  | rest => do
    let (as, rest) ←
      Reader.separated (fun cs => some (skipSpace cs)) '\x7d' (assignment value) rest.length rest
    let entries ← ofAssignments? as
    return (entries, rest)

/-- Reads a value, nested at most `depth` deep. -/
def value : (depth : Nat) → Reader Toml
  | 0 => scalar
  | depth + 1 => fun cs =>
    match cs with
    | '[' :: rest =>
      (arrayRest (value depth) (rest.length + 1) rest).map fun (ts, rest) => (.array ts, rest)
    | '\x7b' :: rest =>
      (inlineTable (value depth) rest).map fun (es, rest) => (.table es, rest)
    | _ => scalar cs

/-- Reads a header: the section that it begins. -/
def header : Reader Section := fun cs =>
  match cs with
  | '[' :: '[' :: cs => do
    let ((path, name), cs) ← key cs
    let cs ← Reader.word [']', ']'] cs
    return (⟨true, path, name, []⟩, cs)
  | '[' :: cs => do
    let ((path, name), cs) ← key cs
    let cs ← Reader.word [']'] cs
    return (⟨false, path, name, []⟩, cs)
  | _ => none

/-- Reads the lines of a text: the assignments in front of the first header, and
the sections. -/
def lines : (fuel : Nat) → List Char → Option (List Assignment × List Section)
  | 0, _ => none
  | fuel + 1, cs => do
    match ← skipGap cs with
    | [] => return ([], [])
    | '[' :: cs =>
      let (s, cs) ← header ('[' :: cs)
      let (as, ss) ← lines fuel (← lineEnd? cs)
      return ([], { s with assignments := as } :: ss)
    | cs =>
      let (a, cs) ← assignment (value maxDepth) cs
      let (as, ss) ← lines fuel (← lineEnd? cs)
      return (a :: as, ss)

/-- A mark of the order of bytes, which may stand in front of a text. -/
def byteOrderMark : Char := '\ufeff'

/-- Reads a TOML text. -/
def read? (text : String) : Option (List (String × Toml)) := do
  let cs :=
    match text.toList with
    | c :: rest => if c = byteOrderMark then rest else c :: rest
    | [] => []
  let (as, ss) ← lines (cs.length + 1) cs
  ofSections? as ss

end Toml

/-- The context of a TOML text, with the moments that its tables stand for. -/
def Context.ofTomlText (text : String) : Except ContextError Context :=
  match (Toml.read? text).bind Toml.settleEntries? with
  | some entries => Context.ofToml (.table entries)
  | none => .error .malformedToml

end BracketTemplate
