/-
# How large patterns are

A pattern is compiled into states before it is looked for, and what is repeated
is compiled as often as it has to be.  `Node.size` says how many bytes that
takes, and a pattern that takes more than `maxSize` is refused.

| pattern | states |
| --- | --- |
| a character | one for each of its bytes |
| a class | two |
| a dot, a class that is negated | thirty, of which one leads to ten others |
| a group that captures | two more |
| a choice | two more |
| a repetition from `m` on | those of `m` copies, and one that leads to two others |
| a repetition from `m` to `n` | those of `n` copies, and one for each that need not be there |
-/

import BracketTemplate.Pattern.Syntax

namespace BracketTemplate

namespace Pattern

/-- The greatest size of a pattern, in bytes. -/
def maxSize : Nat := 10 * Nat.pow 2 20

/-- The size of a state. -/
def stateSize : Nat := 32

/-- The size of a state that leads to some others. -/
def branchSize (others : Nat) : Nat := stateSize + 4 * others

/-- The size of a set of characters of any number of bytes, which are written in
ten forms with 28 bytes. -/
def wideSize : Nat := 28 * stateSize + branchSize 10 + stateSize

mutual

/-- Whether a pattern can take up a character. -/
def Node.consumes : Node → Bool
  | .empty _ | .flags _ _ | .assertion _ _ => false
  | .literal _ | .dot _ | .property _ | .shorthand _ _ _ | .bracketed _ _ _ => true
  | .repetition _ _ most? body => most? != some 0 && body.consumes
  | .group _ _ _ body => body.consumes
  | .choice _ branches => Node.anyConsumes branches
  | .sequence _ items => Node.anyConsumes items

/-- Whether one of some patterns can take up a character. -/
def Node.anyConsumes : List Node → Bool
  | [] => false
  | node :: rest => node.consumes || Node.anyConsumes rest

end

/-- The size of a repetition of something with a size.  What takes up nothing
need not be repeated more than once. -/
def repeatedSize (least : Nat) (most? : Option Nat) (consumes : Bool) (size : Nat) : Nat :=
  let least := if consumes then least else min least 1
  let most? := if consumes then most? else most?.map (min · 1)
  match most? with
  | none => max least 1 * size + branchSize 2
  | some 0 => stateSize
  | some most => least * size + (most - least) * (size + branchSize 2)

mutual

/-- The size of a pattern, in bytes. -/
def Node.size : Node → Nat
  | .empty _ | .flags _ _ | .assertion _ _ => stateSize
  | .literal l => stateSize * l.char.utf8Size
  | .dot _ | .bracketed _ true _ => wideSize
  | .property _ | .shorthand _ _ _ | .bracketed _ false _ => 2 * stateSize
  | .repetition _ least most? body => repeatedSize least most? body.consumes body.size
  | .group _ captures _ body => body.size + if captures then 2 * stateSize else 0
  | .choice _ branches => Node.totalSize branches + 2 * stateSize
  | .sequence _ items => Node.totalSize items

/-- The sizes of some patterns together. -/
def Node.totalSize : List Node → Nat
  | [] => 0
  | node :: rest => node.size + Node.totalSize rest

end

end Pattern

end BracketTemplate
