/-
# Templates

A template is a text taken apart at its directives: the literal text in front
of the first one, and each directive with the literal text that follows it
(`Template.ofText`).  Text that merely resembles a directive is literal.

Two directives never overlap: the only `[[` of a directive is the one it starts
with.  So once a directive is found its characters can be passed over
(`scanFrom` counts how many are left to pass), and no other one is missed.
-/

import BracketTemplate.Directive

namespace BracketTemplate

/-- A directive with the literal text between it and the next one. -/
structure Piece where
  directive : Directive
  literal : List Char
  deriving DecidableEq, Repr, Inhabited

/-- A text taken apart at its directives. -/
structure Template where
  lead : List Char
  pieces : List Piece
  deriving DecidableEq, Repr, Inhabited

namespace Template

/-- Puts a literal character in front. -/
def consChar (c : Char) (t : Template) : Template := { t with lead := c :: t.lead }

/-- Puts a directive in front. -/
def consDirective (d : Directive) (t : Template) : Template := ⟨[], ⟨d, t.lead⟩ :: t.pieces⟩

/-- Takes apart the rest of a text.  The first `pass` characters belong to the
directive found last; `offset` and `line` are those of the rest. -/
def scanFrom : (pass offset line : Nat) → List Char → Template
  | _, _, _, [] => ⟨[], []⟩
  | pass + 1, offset, line, c :: rest => scanFrom pass (offset + c.utf8Size) line rest
  | 0, offset, line, c :: rest =>
    match Directive.body? (c :: rest) with
    | some body =>
      consDirective (.ofBody body offset line)
        (scanFrom (body.length + 5) (offset + c.utf8Size) line rest)
    | none =>
      consChar c
        (scanFrom 0 (offset + c.utf8Size) (if c = '\n' then line + 1 else line) rest)

/-- Takes a text apart. -/
def ofText (text : String) : Template := scanFrom 0 0 1 text.toList

/-- The directives of a template, in order. -/
def directives (t : Template) : List Directive := t.pieces.map (·.directive)

end Template

/-- The directives of a text, in order; a text without any has none. -/
def Directive.scan (text : String) : List Directive := (Template.ofText text).directives

end BracketTemplate
