/-
# Places in a pattern

A complaint about a pattern says where in its text the trouble is: lines and
columns count from one, and a column is a character.
-/

namespace BracketTemplate

namespace Pattern

/-- A place in front of a character, or at the end. -/
structure Position where
  line : Nat
  column : Nat
  deriving DecidableEq, Repr, Inhabited

/-- The place in front of the first character. -/
def Position.first : Position := ⟨1, 1⟩

/-- The place after a character. -/
def Position.after (p : Position) (c : Char) : Position :=
  if c = '\n' then ⟨p.line + 1, 1⟩ else ⟨p.line, p.column + 1⟩

/-- Whether a place comes before another. -/
def Position.isBefore (p q : Position) : Bool :=
  p.line < q.line || p.line = q.line && p.column < q.column

/-- A piece of a pattern, up to the place after its last character. -/
structure Span where
  start : Position
  stop : Position
  deriving DecidableEq, Repr, Inhabited

/-- Whether a piece comes before another; of two with one start, the shorter. -/
def Span.isBefore (a b : Span) : Bool :=
  a.start.isBefore b.start || a.start = b.start && a.stop.isBefore b.stop

/-- Whether a piece lies on one line. -/
def Span.isOneLine (s : Span) : Bool := s.start.line = s.stop.line

end Pattern

end BracketTemplate
