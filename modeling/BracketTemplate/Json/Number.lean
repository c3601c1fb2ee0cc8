/-
# JSON numbers

How the digits of a JSON number become a number.  The digits are gathered into
a significand of 64 bits; from the first one on that does not fit they are only
counted, and after the point not even that.  A number with a fraction or an
exponent, or one that does not fit, is the significand as a floating-point
number, multiplied or divided by a power of ten: two roundings, so that the
result can be next to the nearest one.

| number | reading |
| --- | --- |
| `12`, `18446744073709551615` | integer |
| `-12`, `-9223372036854775808` | integer |
| `-0`, `-9223372036854775809`, `18446744073709551616` | floating point |
| `1.0`, `1e3` | floating point |
| `1e309`, `1e99999999999` | refused, beyond the largest finite number |
| `0e309`, `1e-99999999999` | zero |
-/

import BracketTemplate.Json
import BracketTemplate.Text.Reader

namespace BracketTemplate

namespace Json

namespace Number

/-- The largest significand. -/
def maxSignificand : Nat := Nat.pow 2 64 - 1

/-- The largest exponent that is still a number; a longer one is zero or too large. -/
def maxExponent : Nat := Nat.pow 2 31 - 1

/-- The significand with the digits that fit, and the digits from the first one
that does not. -/
def gather : (significand : Nat) → (digits : List Char) → Nat × List Char
  | significand, [] => (significand, [])
  | significand, c :: rest =>
    let next := 10 * significand + (Decimal.digit? c).getD 0
    if next ≤ maxSignificand then gather next rest else (significand, c :: rest)

/-- Multiplies or divides by `10 ^ exponent`, a power of at most `10 ^ 308` at a
time.  A product beyond the finite numbers is refused. -/
def scale : (fuel : Nat) → Float → Int → Option Float
  | 0, x, _ => some x
  | fuel + 1, x, exponent =>
    if exponent.natAbs ≤ 308 then
      let power := Decimal.nearest ⟨1, exponent.natAbs⟩
      if 0 ≤ exponent then
        let y := x * power
        if y.isInf then none else some y
      else some (x / power)
    else if x == 0.0 then some x
    else if 0 ≤ exponent then none
    else scale fuel (x / Decimal.nearest ⟨1, 308⟩) (exponent + 308)

/-- The number with a significand and an exponent.  Two divisions bring every
significand to zero, so that three rounds are enough. -/
def ofParts (negative : Bool) (significand : Nat) (exponent : Int) : Option Json :=
  (scale 4 (Decimal.nearest ⟨significand, 0⟩) exponent).map fun x =>
    .float (if negative then -x else x)

/-- The digits with which a text starts, which may be none. -/
def digits (cs : List Char) : List Char × List Char := cs.span Decimal.isDigit

/-- Reads what follows an `e` and the number that comes of it. -/
def exponentPart (negative : Bool) (significand : Nat) (before : Int) : Reader Json := fun cs => do
  let (minus, cs) :=
    match cs with
    | '+' :: cs => (false, cs)
    | '-' :: cs => (true, cs)
    | cs => (false, cs)
  let (ds, cs) ← Reader.takeSome Decimal.isDigit cs
  let e := Decimal.ofDigits ds
  if e ≤ maxExponent then
    let j ← ofParts negative significand (if minus then before - e else before + e)
    return (j, cs)
  else if significand ≠ 0 ∧ !minus then none
  else return (.float (if negative then -0.0 else 0.0), cs)

/-- Reads what may follow the fraction. -/
def afterFraction (negative : Bool) (significand : Nat) (exponent : Int) : Reader Json := fun cs =>
  match cs with
  | 'e' :: rest | 'E' :: rest => exponentPart negative significand exponent rest
  | _ => (ofParts negative significand exponent).map (·, cs)

/-- The integer with a sign and a significand.  Zero keeps its sign as a
floating-point number, and so does what is below all integers. -/
def ofSignificand (negative : Bool) (significand : Nat) : Json :=
  if !negative then .integer significand
  else if 0 < significand ∧ significand ≤ Nat.pow 2 63 then .integer (-(significand : Int))
  else .float (-(Decimal.nearest ⟨significand, 0⟩))

/-- Reads what may follow the digits in front of the point, of which `counted`
did not fit into the significand. -/
def afterInteger (negative : Bool) (significand counted : Nat) : Reader Json := fun cs =>
  match cs with
  | '.' :: rest => do
    let (ds, rest) ← Reader.takeSome Decimal.isDigit rest
    let (significand, left) := gather significand ds
    afterFraction negative significand ((counted : Int) - (ds.length - left.length : Nat)) rest
  | 'e' :: rest | 'E' :: rest => exponentPart negative significand counted rest
  | _ =>
    if counted = 0 then some (ofSignificand negative significand, cs)
    else (ofParts negative significand counted).map (·, cs)

/-- Reads a number; no digit may stand in front of others if it is `0`. -/
def read : Reader Json := fun cs => do
  let (negative, cs) :=
    match cs with
    | '-' :: cs => (true, cs)
    | cs => (false, cs)
  let (ds, cs) ← Reader.takeSome Decimal.isDigit cs
  if ds.head? = some '0' ∧ ds ≠ ['0'] then none
  else
    let (significand, left) := gather 0 ds
    afterInteger negative significand left.length cs

end Number

end Json

end BracketTemplate
