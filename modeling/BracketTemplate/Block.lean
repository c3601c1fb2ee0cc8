/-
# Blocks

A loop and a condition reach from their opening directive to the closing one
that belongs to it.  Blocks of one kind nest: an opening between the two has a
closing of its own.  Directives of the other kind do not count, so a loop and a
condition may cross.

`Block.close?` keeps the number of openings that still wait for their closing;
the closing met at `0` is the one sought.
-/

import BracketTemplate.Directive

namespace BracketTemplate

/-- The two kinds of block. -/
inductive Block where
  | loop
  | condition
  deriving DecidableEq, Repr

namespace Block

/-- The directive that opens a block. -/
def opener : Block → Directive.Kind
  | .loop => .loop
  | .condition => .condition

/-- The directive that closes a block. -/
def closer : Block → Directive.Kind
  | .loop => .endLoop
  | .condition => .endCondition

/-- The position of the first closing that no opening of the list claims, when
`waiting` openings before the list wait for theirs. -/
def closeFrom? (b : Block) : (waiting : Nat) → List Directive → Option Nat
  | _, [] => none
  | waiting, d :: rest =>
    if d.kind = b.opener then (b.closeFrom? (waiting + 1) rest).map (· + 1)
    else if d.kind = b.closer then
      match waiting with
      | 0 => some 0
      | waiting + 1 => (b.closeFrom? waiting rest).map (· + 1)
    else (b.closeFrom? waiting rest).map (· + 1)

/-- The position of the directive that closes the block opened at `start`. -/
def close? (b : Block) (directives : List Directive) (start : Nat) : Option Nat :=
  (b.closeFrom? 0 (directives.drop (start + 1))).map (· + (start + 1))

/-- No directive both opens and closes. -/
theorem opener_ne_closer (b : Block) : b.opener ≠ b.closer := by cases b <;> decide

end Block

end BracketTemplate
