/-
# Patterns as they are written

A pattern says which texts are looked for.  Here is what one is made of, with
the places that complaints refer to.

| written | node |
| --- | --- |
| `ab` | `sequence` of literals |
| `a\|b` | `choice` |
| `a*`, `a+`, `a?`, `a{2,3}` | `repetition`; a `?` after it changes nothing here |
| `(a)`, `(?<x>a)`, `(?i:a)` | `group` |
| `(?i)` | `flags`, up to the end of the group |
| `.` | `dot` |
| `^`, `$`, `\A`, `\z`, `\b`, `\B` | `assertion` |
| `[a-c]` | `bracketed`, with a `ClassItem` inside |
| `\d`, `\s`, `\w`, `\D`, `\S`, `\W` | `shorthand` |
| `\pL`, `\p{Greek}` | `property` |

Which of several texts a repetition prefers plays no part, as it is only asked
whether there is one.
-/

import BracketTemplate.Pattern.Span

namespace BracketTemplate

namespace Pattern

/-- What flags can change. -/
inductive Flag where
  | ignoreCase
  | multiLine
  | dotAll
  | swapGreed
  | unicode
  | crlf
  /-- White space and comments do not count. -/
  | spaced
  deriving DecidableEq, Repr, Inhabited

/-- The flag that a letter stands for. -/
def Flag.ofChar? : Char → Option Flag
  | 'i' => some .ignoreCase
  | 'm' => some .multiLine
  | 's' => some .dotAll
  | 'U' => some .swapGreed
  | 'u' => some .unicode
  | 'R' => some .crlf
  | 'x' => some .spaced
  | _ => none

/-- Flags with whether they are set. -/
abbrev Flags := List (Flag × Bool)

/-- What becomes of a flag. -/
def Flags.setting? (flags : Flags) (flag : Flag) : Option Bool :=
  (flags.find? (·.1 = flag)).map (·.2)

/-- A character that stands for itself. -/
structure Literal where
  span : Span
  char : Char
  /-- Whether it is written as a byte, in two hexadecimal digits. -/
  isByte : Bool
  deriving DecidableEq, Repr, Inhabited

/-- The classes that have a letter. -/
inductive Shorthand where
  | digit
  | space
  | word
  deriving DecidableEq, Repr, Inhabited

/-- The classes that have a name, between colons. -/
inductive ClassName where
  | alnum
  | alpha
  | ascii
  | blank
  | cntrl
  | digit
  | graph
  | lower
  | print
  | punct
  | space
  | upper
  | word
  | xdigit
  deriving DecidableEq, Repr, Inhabited

/-- The class with a name. -/
def ClassName.ofText? (name : List Char) : Option ClassName :=
  match String.ofList name with
  | "alnum" => some .alnum
  | "alpha" => some .alpha
  | "ascii" => some .ascii
  | "blank" => some .blank
  | "cntrl" => some .cntrl
  | "digit" => some .digit
  | "graph" => some .graph
  | "lower" => some .lower
  | "print" => some .print
  | "punct" => some .punct
  | "space" => some .space
  | "upper" => some .upper
  | "word" => some .word
  | "xdigit" => some .xdigit
  | _ => none

/-- A property of characters, by its name or by its name and a value. -/
structure Property where
  span : Span
  name : List Char
  deriving DecidableEq, Repr, Inhabited

/-- What can be asked of a place between two characters. -/
inductive Assertion where
  | lineStart
  | lineEnd
  | textStart
  | textEnd
  | boundary
  | noBoundary
  | wordStart
  | wordEnd
  | wordStartHalf
  | wordEndHalf
  deriving DecidableEq, Repr, Inhabited

/-- How two classes are put together. -/
inductive ClassOperator where
  | intersection
  | difference
  | symmetricDifference
  deriving DecidableEq, Repr, Inhabited

/-- What stands between the brackets of a class. -/
inductive ClassItem where
  | empty (span : Span)
  | literal (l : Literal)
  | range (span : Span) (first last : Literal)
  | named (span : Span) (name : ClassName) (negated : Bool)
  | property (p : Property)
  | shorthand (span : Span) (kind : Shorthand) (negated : Bool)
  | bracketed (span : Span) (negated : Bool) (body : ClassItem)
  | union (span : Span) (items : List ClassItem)
  | operation (span : Span) (operator : ClassOperator) (left right : ClassItem)
  deriving Inhabited

/-- The place of a part of a class. -/
def ClassItem.span : ClassItem → Span
  | .literal l => l.span
  | .property p => p.span
  | .empty span | .range span _ _ | .named span _ _ | .shorthand span _ _ | .bracketed span _ _
  | .union span _ | .operation span _ _ _ => span

/-- A pattern. -/
inductive Node where
  | empty (span : Span)
  | flags (span : Span) (flags : Flags)
  | literal (l : Literal)
  | dot (span : Span)
  | assertion (span : Span) (kind : Assertion)
  | property (p : Property)
  | shorthand (span : Span) (kind : Shorthand) (negated : Bool)
  | bracketed (span : Span) (negated : Bool) (body : ClassItem)
  | repetition (span : Span) (least : Nat) (most? : Option Nat) (body : Node)
  /-- A group, which may set flags for what is in it. -/
  | group (span : Span) (captures : Bool) (flags : Flags) (body : Node)
  | choice (span : Span) (branches : List Node)
  | sequence (span : Span) (items : List Node)
  deriving Inhabited

namespace Node

/-- The place of a pattern in a larger one. -/
def span : Node → Span
  | .literal l => l.span
  | .property p => p.span
  | .empty span | .flags span _ | .dot span | .assertion span _ | .shorthand span _ _
  | .bracketed span _ _ | .repetition span _ _ _ | .group span _ _ _ | .choice span _
  | .sequence span _ => span

/-- Whether there is something to repeat. -/
def isRepeatable : Node → Bool
  | .empty _ | .flags _ _ => false
  | _ => true

/-- Several patterns one after another. -/
def ofItems (span : Span) : List Node → Node
  | [] => .empty span
  | [item] => item
  | items => .sequence span items

/-- Several patterns of which one is enough. -/
def ofBranches (span : Span) : List Node → Node
  | [branch] => branch
  | branches => .choice span branches

end Node

mutual

/-- The first part of a class that is nested deeper than some levels. -/
def ClassItem.tooDeep? : (levels : Nat) → ClassItem → Option Span
  | 0, .bracketed span _ _ | 0, .union span _ | 0, .operation span _ _ _ => some span
  | levels + 1, .bracketed _ _ body => body.tooDeep? levels
  | levels + 1, .union _ items => ClassItem.anyTooDeep? levels items
  | levels + 1, .operation _ _ left right =>
    (left.tooDeep? levels).or (right.tooDeep? levels)
  | _, _ => none

/-- The first of some parts of a class that is nested deeper than some levels. -/
def ClassItem.anyTooDeep? (levels : Nat) : List ClassItem → Option Span
  | [] => none
  | item :: rest => (item.tooDeep? levels).or (ClassItem.anyTooDeep? levels rest)

end

mutual

/-- The first part of a pattern that is nested deeper than some levels. -/
def Node.tooDeep? : (levels : Nat) → Node → Option Span
  | 0, .bracketed span _ _ | 0, .repetition span _ _ _ | 0, .group span _ _ _
  | 0, .choice span _ | 0, .sequence span _ => some span
  | levels + 1, .bracketed _ _ body => body.tooDeep? levels
  | levels + 1, .repetition _ _ _ body => body.tooDeep? levels
  | levels + 1, .group _ _ _ body => body.tooDeep? levels
  | levels + 1, .choice _ branches => Node.anyTooDeep? levels branches
  | levels + 1, .sequence _ items => Node.anyTooDeep? levels items
  | _, _ => none

/-- The first of some parts of a pattern that is nested deeper than some levels. -/
def Node.anyTooDeep? (levels : Nat) : List Node → Option Span
  | [] => none
  | item :: rest => (item.tooDeep? levels).or (Node.anyTooDeep? levels rest)

end

end Pattern

end BracketTemplate
