/-
# Floating-point numbers in positional notation

A floating-point number is written with the fewest digits that read back, with
no exponent however large or small it is, and without a fraction when it is an
integer.

| number | text |
| --- | --- |
| `3.0` | `3` |
| `1e21` | `1000000000000000000000` |
| `1e-7` | `0.0000001` |
| `-0.0` | `-0` |
| infinities, not a number | `inf`, `-inf`, `NaN` |
-/

import BracketTemplate.Decimal.Shortest

namespace BracketTemplate

namespace Decimal

/-- A decimal in positional notation. -/
def positional (x : Decimal) : List Char :=
  let ds := digits x.coefficient
  let point := (ds.length : Int) + x.exponent
  if 0 ≤ x.exponent then ds ++ List.replicate x.exponent.toNat '0'
  else if 0 < point then ds.take point.toNat ++ '.' :: ds.drop point.toNat
  else '0' :: '.' :: (List.replicate (-point).toNat '0' ++ ds)

end Decimal

/-- The text of a number in its fields. -/
def Binary64.text : Binary64 → String
  | .notANumber => "NaN"
  | .infinite negative => String.ofList (signed negative ['i', 'n', 'f'])
  | .finite negative magnitude =>
    String.ofList <| signed negative <|
      if magnitude.mantissa = 0 then ['0'] else Decimal.positional magnitude.shortest
where
  /-- A text with the sign in front. -/
  signed (negative : Bool) (text : List Char) : List Char :=
    if negative then '-' :: text else text

example : (Binary64.ofBits 0x4008000000000000).text = "3" ∧
    (Binary64.ofBits 0x444b1ae4d6e2ef50).text = "1000000000000000000000" ∧
    (Binary64.ofBits 0x3e7ad7f29abcaf48).text = "0.0000001" ∧
    (Binary64.ofBits 0x8000000000000000).text = "-0" := by decide +kernel

example : (Binary64.ofBits 0x7ff0000000000000).text = "inf" ∧
    (Binary64.ofBits 0xfff0000000000000).text = "-inf" ∧
    (Binary64.ofBits 0x7ff8000000000000).text = "NaN" := by decide +kernel

/-- The text of a floating-point number. -/
def Decimal.floatText (x : Float) : String := (Binary64.ofFloat x).text

end BracketTemplate
