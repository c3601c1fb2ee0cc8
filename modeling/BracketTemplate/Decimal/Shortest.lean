/-
# The fewest digits that read back

`Binary.shortest` gives the shortest decimal that reads back as a given
binary64 number, and of several shortest ones the nearest.  The reals that read
back as `m · 2^q` are an interval around it, which ends half way to the
neighbours and contains its ends when `m` is even (a tie goes to the even
mantissa).  On the grid of multiples of `10^k` only the two neighbours of the
number can be nearest to it, so the search goes down from a `k` that is too
large and stops at the first grid of which one of the two lies in the interval.

All comparisons are made on multiples of a common unit: a quarter of `2^q` is
`quarter` units and `10^k` is `grid` units.
-/

import BracketTemplate.Decimal.Basic

namespace BracketTemplate

namespace Binary

/-- The number, a quarter of a step of its mantissa and the grid `10^k`, all in one unit. -/
structure Scale where
  quarter : Nat
  grid : Nat

/-- The unit common to `2 ^ (q - 2)` and `10 ^ k`. -/
def scale (q k : Int) : Scale where
  quarter := Nat.pow 2 (q - 2).toNat * Nat.pow 10 (-k).toNat
  grid := Nat.pow 10 k.toNat * Nat.pow 2 (2 - q).toNat

/-- Whether the multiple `d` of the grid reads back as `x`.  Below a power of
two the neighbours are half as far away as above it. -/
def admits (x : Binary) (s : Scale) (d : Nat) : Bool :=
  let m := x.mantissa
  let below := if m = Nat.pow 2 52 ∧ -1074 < x.exponent then 4 * m - 1 else 4 * m - 2
  let low := below * s.quarter
  let high := (4 * m + 2) * s.quarter
  let point := d * s.grid
  if m % 2 = 0 then low ≤ point && point ≤ high else low < point && point < high

/-- The multiple of `10 ^ k` nearest to `x` among those that read back as `x`;
of two equally near ones the larger. -/
def onGrid? (x : Binary) (k : Int) : Option Nat :=
  let s := scale x.exponent k
  let value := 4 * x.mantissa * s.quarter
  let d := value / s.grid
  let down := d ≠ 0 ∧ admits x s d
  let up : Bool := admits x s (d + 1)
  if down then
    if up then
      if value - d * s.grid < (d + 1) * s.grid - value then some d else some (d + 1)
    else some d
  else if up then some (d + 1)
  else none

/-- Tries the grids `10 ^ k`, `10 ^ (k - 1)`, … -/
def searchGrids (x : Binary) : Nat → Int → Decimal
  | 0, k => ⟨0, k⟩
  | n + 1, k =>
    match onGrid? x k with
    | some d => ⟨d, k⟩
    | none => searchGrids x n (k - 1)

/-- The shortest decimal that reads back as `x`, for `x` not zero.  The search
starts above the number's leading digit; seventeen digits always read back. -/
def shortest (x : Binary) : Decimal :=
  let top := ((x.mantissa.log2 : Int) + x.exponent) * 30103 / 100000 + 2
  searchGrids x 24 top

end Binary

end BracketTemplate
