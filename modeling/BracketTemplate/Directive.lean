/-
# Directives

A directive is written `[[ body ]]`, with one space on each side of a body of
letters, digits, `.`, `:`, `_` and `-`.  The body is a list of segments between
colons: the first is the keyword, the others are the arguments.

| body | kind | effect |
| --- | --- | --- |
| `component:name` | component | renders another source in place |
| `for:items`, `for:items:item` | loop | repeats what follows for each element |
| `endfor` | end of loop | |
| `if:flag` | condition | leaves out what follows unless the flag holds |
| `endif` | end of condition | |
| `html:name` | html | prints a variable as it is |
| anything else | variable | prints the variable that the keyword names |

An argument that is empty counts as absent.
-/

namespace BracketTemplate

namespace Directive

/-- What a directive does, which its keyword decides. -/
inductive Kind where
  | component
  | loop
  | endLoop
  | condition
  | endCondition
  | html
  | variable
  deriving DecidableEq, Repr, Inhabited

namespace Kind

/-- The kind of the directive with a keyword. -/
def ofKeyword (keyword : String) : Kind :=
  if keyword = "component" then .component
  else if keyword = "for" then .loop
  else if keyword = "endfor" then .endLoop
  else if keyword = "if" then .condition
  else if keyword = "endif" then .endCondition
  else if keyword = "html" then .html
  else .variable

/-- The name of a kind in listings. -/
def name : Kind → String
  | .component => "component"
  | .loop => "for"
  | .endLoop => "endfor"
  | .condition => "if"
  | .endCondition => "endif"
  | .html => "html"
  | .variable => "variable"

/-- The name of a kind in log messages. -/
def label : Kind → String
  | .component => "Component"
  | .loop => "For"
  | .endLoop => "EndFor"
  | .condition => "If"
  | .endCondition => "EndIf"
  | .html => "Html"
  | .variable => "Variable"

end Kind

/-- Whether a character may stand in the body of a directive. -/
def isBodyChar (c : Char) : Bool :=
  c.isAlphanum || c == '.' || c == ':' || c == '_' || c == '-'

/-- What stands before the body. -/
def opening : List Char := ['[', '[', ' ']

/-- What stands after the body. -/
def closing : List Char := [' ', ']', ']']

/-- A directive with a given body, as it is written. -/
def spelling (body : List Char) : List Char := opening ++ body ++ closing

/-- The body of the directive with which a text starts, if it starts with one.
The body is the longest run of body characters, since no closing starts with one. -/
def body? : List Char → Option (List Char)
  | '[' :: '[' :: ' ' :: rest =>
    let body := rest.takeWhile isBodyChar
    if body ≠ [] ∧ closing.isPrefixOf (rest.dropWhile isBodyChar) then some body else none
  | _ => none

end Directive

/-- A directive of a text, with the place where it stands: the offsets, in UTF-8
bytes, of its first character and of what follows it, and its line, from 1. -/
structure Directive where
  keyword : String
  args : List String
  start : Nat
  stop : Nat
  line : Nat
  deriving DecidableEq, Repr, Inhabited

namespace Directive

/-- The directive with a body, at an offset and on a line. -/
def ofBody (body : List Char) (start line : Nat) : Directive :=
  let segments := (body.splitOn ':').map String.ofList
  { keyword := segments.headD ""
    args := segments.tail
    start := start
    stop := start + (spelling body).length
    line := line }

/-- What the directive does. -/
def kind (d : Directive) : Kind := .ofKeyword d.keyword

/-- The argument at a position, unless it is absent or empty. -/
def argument? (d : Directive) (i : Nat) : Option String :=
  d.args[i]?.filter (· != "")

/-- The directive further down in a longer text. -/
def shift (d : Directive) (bytes newlines : Nat) : Directive :=
  { d with start := d.start + bytes, stop := d.stop + bytes, line := d.line + newlines }

/-- The kind does not depend on the place. -/
@[simp] theorem kind_shift (d : Directive) (bytes newlines : Nat) :
    (d.shift bytes newlines).kind = d.kind := rfl

/-- The arguments do not depend on the place. -/
@[simp] theorem argument?_shift (d : Directive) (bytes newlines i : Nat) :
    (d.shift bytes newlines).argument? i = d.argument? i := rfl

end Directive

end BracketTemplate
