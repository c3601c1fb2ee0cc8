/-
# The floating-point number nearest to a decimal

`Decimal.nearest` reads a decimal as the binary64 number nearest to it, of two
equally near ones the one with the even mantissa.  The quotient that decides is
an exact quotient of natural numbers: with `p = 52` fraction bits the exponent
`q` is taken so that `2^p ≤ c · 10^e / 2^q < 2^(p+1)`, but never below the
exponent `-1074` of the subnormal numbers, and the quotient is rounded once.
A rounding that carries to `2^(p+1)` needs no case of its own, because the bit
pattern of the next binade is the next integer.
-/

import BracketTemplate.Decimal.Basic

namespace BracketTemplate

namespace Decimal

/-- `n / d` rounded to the nearest integer, a half to the even one. -/
def roundHalfEven (n d : Nat) : Nat :=
  let q := n / d
  let twice := 2 * (n % d)
  if twice < d then q
  else if d < twice then q + 1
  else if q % 2 = 0 then q else q + 1

/-- `n · 2 ^ e` over `d`, as a numerator and a denominator. -/
def scaleByTwo (n d : Nat) (e : Int) : Nat × Nat :=
  (n * Nat.pow 2 e.toNat, d * Nat.pow 2 (-e).toNat)

/-- The greatest `l` with `2 ^ l ≤ n / d`, for positive `n` and `d`. -/
def floorLog2 (n d : Nat) : Int :=
  let l := (n.log2 : Int) - (d.log2 : Int)
  let (n', d') := scaleByTwo n d (-l)
  if d' ≤ n' then l else l - 1

/-- The bit pattern of infinity. -/
def infinityBits : Nat := 2047 * Nat.pow 2 52

/-- The bit pattern of the number nearest to `n / d`. -/
def nearestBits (n d : Nat) : Nat :=
  let q := max (floorLog2 n d - 52) (-1074)
  let (n', d') := scaleByTwo n d (-q)
  min ((q + 1074).toNat * Nat.pow 2 52 + roundHalfEven n' d') infinityBits

/-- The floating-point number nearest to a decimal.  Beyond `10^310` every
decimal is infinite and below `10^-330` every one is zero, so that no larger
power of ten is ever computed. -/
def nearest (x : Decimal) : Float :=
  let magnitude := x.exponent + ((digits x.coefficient).length : Int)
  let bits :=
    if x.coefficient = 0 then 0
    else if 310 < magnitude then infinityBits
    else if magnitude < -330 then 0
    else nearestBits (x.coefficient * Nat.pow 10 x.exponent.toNat) (Nat.pow 10 (-x.exponent).toNat)
  Float.ofBits (UInt64.ofNat bits)

end Decimal

end BracketTemplate
