/-
# Decimal digits, and binary floating point as exact integers

A number in decimal notation is a coefficient times a power of ten
(`Decimal`), a finite binary64 number an integer times a power of two
(`Binary`).  Both are exact, so what is near to what is decided in `Nat`, with
no rounding on the way.

| part of the 64 bits | width | meaning |
| --- | ---: | --- |
| sign | 1 | 1 for a negative number |
| exponent field `e` | 11 | `e = 0`: `f · 2^-1074`; `0 < e < 2047`: `(2^52 + f) · 2^(e - 1075)` |
| fraction `f` | 52 | `e = 2047`: an infinity for `f = 0`, else not a number |
-/

namespace BracketTemplate

/-- The number `coefficient · 10 ^ exponent`. -/
structure Decimal where
  coefficient : Nat
  exponent : Int
  deriving Repr, DecidableEq

/-- The number `mantissa · 2 ^ exponent`. -/
structure Binary where
  mantissa : Nat
  exponent : Int
  deriving Repr, DecidableEq

/-- What the 64 bits of a floating-point number stand for. -/
inductive Binary64 where
  | finite (negative : Bool) (magnitude : Binary)
  | infinite (negative : Bool)
  | notANumber
  deriving Repr, DecidableEq

namespace Binary64

/-- Reads the three fields of a bit pattern. -/
def ofBits (bits : Nat) : Binary64 :=
  let negative : Bool := bits / Nat.pow 2 63 % 2 = 1
  let field := bits / Nat.pow 2 52 % Nat.pow 2 11
  let fraction := bits % Nat.pow 2 52
  if field = 2047 then
    if fraction = 0 then .infinite negative else .notANumber
  else if field = 0 then .finite negative ⟨fraction, -1074⟩
  else .finite negative ⟨Nat.pow 2 52 + fraction, Int.ofNat field - 1075⟩

/-- The fields of a floating-point number. -/
def ofFloat (x : Float) : Binary64 := ofBits x.toBits.toNat

end Binary64

namespace Decimal

/-- The value of a decimal digit. -/
def digit? (c : Char) : Option Nat :=
  if '0' ≤ c ∧ c ≤ '9' then some (c.toNat - '0'.toNat) else none

/-- Whether a character is one of `0` to `9`. -/
def isDigit (c : Char) : Bool := '0' ≤ c && c ≤ '9'

/-- The number that a list of decimal digits denotes; other characters count as `0`. -/
def ofDigits (digits : List Char) : Nat :=
  digits.foldl (fun n c => 10 * n + (digit? c).getD 0) 0

/-- The decimal digits of a number, `0` for zero. -/
def digits (n : Nat) : List Char := Nat.toDigits 10 n

/-- An integer in decimal notation, with `-` in front of a negative one. -/
def intText : Int → String
  | .ofNat n => String.ofList (digits n)
  | .negSucc n => String.ofList ('-' :: digits (n + 1))

end Decimal

end BracketTemplate
