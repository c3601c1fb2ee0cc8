/-
# What patterns mean

`Node.meaning` carries out the flags of a pattern, which hold from where they
stand to the end of the group, and finds the sets of characters that its classes
are.  No tables of Unicode are at hand, which rules out some patterns:

| | flag `u`, which is set at first | without it |
| --- | --- | --- |
| `\d`, `\s`, `\w` | refused | ASCII |
| `\D`, `\S`, `\W`, `[^a]`, `.` | refused, all but the `a`, all but a newline | refused |
| `\pL` | refused | refused |
| flag `i` | refused, unless there is nothing to fold | letters of ASCII |
| `\xFF` | the character `ÿ` | refused |
| `[é]` | the character `é` | refused |

Refused without `u` is what could take a character apart into bytes.
-/

import BracketTemplate.Pattern.Complaint
import BracketTemplate.Pattern.Expr
import BracketTemplate.Pattern.Syntax

namespace BracketTemplate

namespace Pattern

/-- The flags in force. -/
structure Mode where
  ignoreCase : Bool := false
  multiLine : Bool := false
  dotAll : Bool := false
  crlf : Bool := false
  unicode : Bool := true
  deriving DecidableEq, Repr, Inhabited

/-- The flags in force after one is set or cleared. -/
def Mode.set (mode : Mode) (flag : Flag) (value : Bool) : Mode :=
  match flag with
  | .ignoreCase => { mode with ignoreCase := value }
  | .multiLine => { mode with multiLine := value }
  | .dotAll => { mode with dotAll := value }
  | .crlf => { mode with crlf := value }
  | .unicode => { mode with unicode := value }
  | .swapGreed | .spaced => mode

/-- The flags in force after some are set or cleared. -/
def Mode.setAll (mode : Mode) (flags : Flags) : Mode :=
  flags.foldl (fun mode (flag, value) => mode.set flag value) mode

/-- Finds a meaning or complains. -/
abbrev Checked := Except Complaint

/-- Complains. -/
def Checked.refuse {α : Type} (flaw : Flaw) (span : Span) : Checked α := .error ⟨flaw, span⟩

/-! ## Sets of characters -/

/-- The characters of a class with a name. -/
def ClassName.contains (name : ClassName) (c : Char) : Bool :=
  let isBetween (first last : Char) := first ≤ c && c ≤ last
  match name with
  | .alnum => c.isAlphanum
  | .alpha => c.isAlpha
  | .ascii => c < '\x80'
  | .blank => c == '\t' || c == ' '
  | .cntrl => c < ' ' || c == '\x7f'
  | .digit => c.isDigit
  | .graph => isBetween '!' '~'
  | .lower => c.isLower
  | .print => isBetween ' ' '~'
  | .punct => isBetween '!' '~' && !c.isAlphanum
  | .space => isBetween '\t' '\r' || c == ' '
  | .upper => c.isUpper
  | .word => isWordChar c
  | .xdigit => c.isDigit || isBetween 'a' 'f' || isBetween 'A' 'F'

/-- The characters of ASCII in a class with a letter. -/
def Shorthand.contains : Shorthand → Char → Bool
  | .digit => ClassName.contains .digit
  | .space => ClassName.contains .space
  | .word => ClassName.contains .word

/-- A set with the letters of ASCII in their other case. -/
def foldCase (set : CharSet) : CharSet := fun c => set c || set c.toLower || set c.toUpper

/-- The characters of a class, and whether none of them could have another case. -/
structure CharClass where
  set : CharSet
  isFolded : Bool

namespace CharClass

/-- No characters. -/
def empty : CharClass := ⟨fun _ => false, true⟩

/-- The characters of either class. -/
def union (a b : CharClass) : CharClass :=
  ⟨fun c => a.set c || b.set c, a.isFolded && b.isFolded⟩

/-- The characters of a class, in both cases if case does not count. -/
def folded (mode : Mode) (span : Span) (cls : CharClass) : Checked CharSet :=
  if !mode.ignoreCase then .ok cls.set
  else if !mode.unicode then .ok (foldCase cls.set)
  else if cls.isFolded then .ok cls.set
  else .refuse .caseUnavailable span

/-- The characters of a class or the others, once cases are folded. -/
def closed (mode : Mode) (span : Span) (negated : Bool) (cls : CharClass) :
    Checked CharClass := do
  let set ← cls.folded mode span
  if !negated then return ⟨set, true⟩
  else if mode.unicode then return ⟨fun c => !set c, true⟩
  else .refuse .notText span

end CharClass

/-- The characters that two sets come to. -/
def ClassOperator.apply (operator : ClassOperator) (a b : CharSet) : CharSet := fun c =>
  match operator with
  | .intersection => a c && b c
  | .difference => a c && !b c
  | .symmetricDifference => a c != b c

/-! ## Classes -/

/-- A character that stands for itself; as a byte it has to be one of ASCII. -/
def Literal.checked (mode : Mode) (l : Literal) : Checked Char :=
  if !mode.unicode && l.isByte && '\x7f' < l.char then .refuse .notText l.span else .ok l.char

/-- A character in a class, which is one of ASCII if the class is one of bytes. -/
def Literal.checkedInClass (mode : Mode) (l : Literal) : Checked Char := do
  let c ← l.checked mode
  if !mode.unicode && '\x7f' < c then .refuse .notBytes l.span else return c

/-- Whether the name of a property may also be that of a category, of which the
values are not known.  Case, some signs and a leading `is` do not count. -/
def Property.isCategory (p : Property) : Bool :=
  let name :=
    match p.name.map Char.toLower with
    | 'i' :: 's' :: rest => rest
    | name => name
  name.filter (fun c => c < '\x80' && c ∉ [' ', '_', '-']) ∈ [['c', 'f'], ['s', 'c'], ['l', 'c']]

/-- The complaint about a property. -/
def Property.flaw (mode : Mode) (p : Property) : Flaw :=
  if !mode.unicode then .notBytes
  else if p.isCategory then .propertyValueUnknown
  else .propertyUnknown

/-- The characters of a class with a letter. -/
def Shorthand.meaning (mode : Mode) (span : Span) (kind : Shorthand) (negated : Bool) :
    Checked CharClass :=
  if mode.unicode then .refuse .shorthandUnavailable span
  else if negated then .refuse .notText span
  else .ok ⟨kind.contains, true⟩

mutual

/-- The characters of a part of a class. -/
def ClassItem.meaning (mode : Mode) : ClassItem → Checked CharClass
  | .empty _ => .ok .empty
  | .literal l => do
    let c ← l.checkedInClass mode
    return ⟨(· == c), false⟩
  | .range _ first last => do
    let first ← first.checkedInClass mode
    let last ← last.checkedInClass mode
    return ⟨fun c => first ≤ c && c ≤ last, false⟩
  | .named span name negated => CharClass.closed mode span negated ⟨name.contains, false⟩
  | .property p => .refuse (p.flaw mode) p.span
  | .shorthand span kind negated => kind.meaning mode span negated
  | .bracketed span negated body => do
    (← body.meaning mode).closed mode span negated
  | .union _ items => ClassItem.unionMeaning mode items
  | .operation _ operator left right => do
    let l ← left.meaning mode
    let r ← right.meaning mode
    let r ← r.folded mode right.span
    let l ← l.folded mode left.span
    return ⟨operator.apply l r, true⟩

/-- The characters of some parts of a class. -/
def ClassItem.unionMeaning (mode : Mode) : List ClassItem → Checked CharClass
  | [] => .ok .empty
  | item :: rest => do
    let first ← item.meaning mode
    return first.union (← ClassItem.unionMeaning mode rest)

end

/-! ## Patterns -/

/-- The place that an assertion asks for. -/
def Assertion.look (mode : Mode) (kind : Assertion) : Look :=
  let word (l : Look) : Look := if mode.unicode then .anyScript else l
  match kind with
  | .lineStart =>
    if !mode.multiLine then .textStart else if mode.crlf then .anyLineStart else .lineStart
  | .lineEnd =>
    if !mode.multiLine then .textEnd else if mode.crlf then .anyLineEnd else .lineEnd
  | .textStart => .textStart
  | .textEnd => .textEnd
  | .boundary => word .boundary
  | .noBoundary => word .noBoundary
  | .wordStart => word .wordStart
  | .wordEnd => word .wordEnd
  | .wordStartHalf => word .wordStartHalf
  | .wordEndHalf => word .wordEndHalf

/-- The characters that a dot stands for. -/
def dotSet (mode : Mode) : CharSet := fun c =>
  mode.dotAll || c != '\n' && !(mode.crlf && c == '\r')

/-- The meaning of a character that stands for itself. -/
def Literal.meaning (mode : Mode) (l : Literal) : Checked Expr := do
  let c ← l.checked mode
  let set ← CharClass.folded mode l.span ⟨(· == c), false⟩
  return .char set

mutual

/-- The meaning of a pattern under the flags in force, and the flags after it. -/
def Node.meaning (mode : Mode) : Node → Checked (Expr × Mode)
  | .empty _ => .ok (.empty, mode)
  | .flags _ changes => .ok (.empty, mode.setAll changes)
  | .literal l => do return (← l.meaning mode, mode)
  | .dot span => if mode.unicode then .ok (.char (dotSet mode), mode) else .refuse .notText span
  | .assertion _ kind => .ok (.look (kind.look mode), mode)
  | .property p => .refuse (p.flaw mode) p.span
  | .shorthand span kind negated => do
    return (.char (← kind.meaning mode span negated).set, mode)
  | .bracketed span negated body => do
    let cls ← (← body.meaning mode).closed mode span negated
    return (.char cls.set, mode)
  | .repetition _ least most? body => do
    let (e, mode) ← body.meaning mode
    return (if most? = some 0 then .empty else .repeated least most? e, mode)
  | .group _ _ changes body => do
    let (e, _) ← body.meaning (mode.setAll changes)
    return (e, mode)
  | .choice _ branches => do
    let (es, mode) ← Node.meanings mode branches
    return (.choice es, mode)
  | .sequence _ items => do
    let (es, mode) ← Node.meanings mode items
    return (.sequence es, mode)

/-- The meanings of patterns one after another. -/
def Node.meanings (mode : Mode) : List Node → Checked (List Expr × Mode)
  | [] => .ok ([], mode)
  | node :: rest => do
    let (e, mode) ← node.meaning mode
    let (es, mode) ← Node.meanings mode rest
    return (e :: es, mode)

end

end Pattern

end BracketTemplate
