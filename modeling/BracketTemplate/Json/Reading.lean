/-
# Reading JSON

`Json.read?` reads a JSON text: one value with blanks around it.  Of members of
an object with the same name the last counts.  Control characters stand in
strings only as escapes, an escape of a surrogate only as one half of a pair,
and arrays and objects are nested at most `maxDepth` deep.
-/

import BracketTemplate.Json.Number

namespace BracketTemplate

namespace Json

/-- How deep arrays and objects may be nested. -/
def maxDepth : Nat := 127

/-- The characters that may stand between the parts of a value. -/
def isBlankChar (c : Char) : Bool := c == ' ' || c == '\n' || c == '\t' || c == '\r'

/-- Passes over blanks. -/
def skipBlanks (cs : List Char) : List Char := cs.dropWhile isBlankChar

/-- The character that an escape of one letter stands for. -/
def escape? : Char → Option Char
  | '"' => some '"'
  | '\\' => some '\\'
  | '/' => some '/'
  | 'b' => some '\x08'
  | 'f' => some '\x0c'
  | 'n' => some '\n'
  | 'r' => some '\r'
  | 't' => some '\t'
  | _ => none

/-- The character that a pair of surrogates stands for. -/
def ofSurrogates? (high low : Nat) : Option Char :=
  if 0xD800 ≤ high ∧ high ≤ 0xDBFF ∧ 0xDC00 ≤ low ∧ low ≤ 0xDFFF then
    Reader.charOf? (0x10000 + 0x400 * (high - 0xD800) + (low - 0xDC00))
  else none

/-- Reads the rest of a string, to the quote that ends it. -/
def stringRest : Reader (List Char)
  | [] => none
  | '"' :: rest => some ([], rest)
  | '\\' :: 'u' :: a :: b :: c :: d :: rest => do
    let code ← Reader.hexNumber? [a, b, c, d]
    match Reader.charOf? code with
    | some ch =>
      let (cs, rest) ← stringRest rest
      return (ch :: cs, rest)
    | none =>
      match rest with
      | '\\' :: 'u' :: e :: f :: g :: h :: rest =>
        let low ← Reader.hexNumber? [e, f, g, h]
        let ch ← ofSurrogates? code low
        let (cs, rest) ← stringRest rest
        return (ch :: cs, rest)
      | _ => none
  | '\\' :: c :: rest => do
    let ch ← escape? c
    let (cs, rest) ← stringRest rest
    return (ch :: cs, rest)
  | c :: rest =>
    if c = '\\' ∨ c.toNat < 0x20 then none
    else do
      let (cs, rest) ← stringRest rest
      return (c :: cs, rest)

/-- Reads a string. -/
def string? : Reader String
  | '"' :: rest => (stringRest rest).map fun (cs, rest) => (String.ofList cs, rest)
  | _ => none

/-- Reads a value that is neither array nor object. -/
def scalar : Reader Json := fun cs =>
  match cs with
  | 'n' :: _ => (Reader.word ['n', 'u', 'l', 'l'] cs).map (.null, ·)
  | 't' :: _ => (Reader.word ['t', 'r', 'u', 'e'] cs).map (.bool true, ·)
  | 'f' :: _ => (Reader.word ['f', 'a', 'l', 's', 'e'] cs).map (.bool false, ·)
  | '"' :: _ => (string? cs).map fun (s, rest) => (.string s, rest)
  | _ => Number.read cs

/-- Reads what follows an opening bracket: nothing, or items with commas. -/
def items {α : Type} (close : Char) (item : Reader α) : Reader (List α) := fun cs =>
  match skipBlanks cs with
  | [] => none
  | c :: rest =>
    if c = close then some ([], rest)
    else Reader.separated (fun cs => some (skipBlanks cs)) close item cs.length (c :: rest)

/-- Reads a member of an object. -/
def member (value : Reader Json) : Reader (String × Json) := fun cs => do
  let (name, cs) ← string? cs
  match skipBlanks cs with
  | ':' :: cs =>
    let (j, cs) ← value cs
    return ((name, j), cs)
  | _ => none

/-- Reads a value with blanks in front, nested at most `depth` deep. -/
def value : (depth : Nat) → Reader Json
  | 0 => fun cs => scalar (skipBlanks cs)
  | depth + 1 => fun cs =>
    match skipBlanks cs with
    | '[' :: cs => (items ']' (value depth) cs).map fun (js, cs) => (.array js, cs)
    | '{' :: cs =>
      (items '}' (member (value depth)) cs).map fun (ms, cs) => (.object (Entries.ofList ms), cs)
    | cs => scalar cs

/-- Reads a JSON text. -/
def read? (text : String) : Option Json := do
  let (j, rest) ← value maxDepth text.toList
  if skipBlanks rest = [] then return j else none

end Json

/-- The context of a JSON text. -/
def Context.ofJsonText (text : String) : Except ContextError Context :=
  match Json.read? text with
  | some j => Context.ofJson j
  | none => .error .malformedJson

end BracketTemplate
