/-
# Reading TOML numbers

Integers are decimal, with a sign if one likes, or unsigned with `0x`, `0o` or
`0b` in front, and have 64 bits with a sign.  Floating-point numbers have a
fraction, an exponent or both, or are one of `inf` and `nan`, and are read as
the nearest number; one that is too large is refused, one that is too small
becomes negative infinity.  An underscore may stand between two digits, and a
decimal integer has no zeros in front.
-/

import BracketTemplate.Decimal.Nearest
import BracketTemplate.Text.Reader
import BracketTemplate.Toml

namespace BracketTemplate

namespace Toml

namespace Number

/-- Reads digits, with underscores between two of them left out. -/
def groupedDigits (isDigit : Char → Bool) : Reader (List Char) := fun cs =>
  let run := cs.takeWhile fun c => isDigit c || c == '_'
  let groups := run.splitOn '_'
  if groups.all (· ≠ []) then some (groups.flatten, cs.drop run.length) else none

/-- Reads a sign, if there is one: whether it is a minus. -/
def sign (cs : List Char) : Bool × List Char :=
  match cs with
  | '-' :: rest => (true, rest)
  | '+' :: rest => (false, rest)
  | _ => (false, cs)

/-- Reads the digits of a decimal integer, with no zeros in front. -/
def decimalDigits : Reader (List Char) := fun cs =>
  match cs with
  | '0' :: rest => some (['0'], rest)
  | _ => groupedDigits Decimal.isDigit cs

/-- The integers of 64 bits with a sign. -/
def integer64? (n : Int) : Option Toml :=
  if Value.isInteger64 n then some (.integer n) else none

/-- Reads an integer. -/
def integer : Reader Toml := fun cs =>
  let based (base : Nat) (isDigit : Char → Bool) (rest : List Char) :
      Option (Toml × List Char) := do
    let (ds, rest) ← groupedDigits isDigit rest
    let n := ds.foldl (fun n c => base * n + (Reader.hexDigit? c).getD 0) 0
    let t ← integer64? n
    return (t, rest)
  match cs with
  | '0' :: 'x' :: rest => based 16 (fun c => (Reader.hexDigit? c).isSome) rest
  | '0' :: 'o' :: rest => based 8 (fun c => '0' ≤ c && c ≤ '7') rest
  | '0' :: 'b' :: rest => based 2 (fun c => c == '0' || c == '1') rest
  | _ => do
    let (minus, rest) := sign cs
    let (ds, rest) ← decimalDigits rest
    let n : Int := Decimal.ofDigits ds
    let t ← integer64? (if minus then -n else n)
    return (t, rest)

/-- Reads the fraction of a number, if there is one. -/
def fraction : Reader (List Char) := fun cs =>
  match cs with
  | '.' :: rest => groupedDigits Decimal.isDigit rest
  | _ => some ([], cs)

/-- Reads the exponent of a number, if there is one. -/
def exponent : Reader (Option Int) := fun cs =>
  let signed (rest : List Char) : Option (Option Int × List Char) := do
    let (minus, rest) := sign rest
    let (ds, rest) ← groupedDigits Decimal.isDigit rest
    let e : Int := Decimal.ofDigits ds
    return (some (if minus then -e else e), rest)
  match cs with
  | 'e' :: rest | 'E' :: rest => signed rest
  | _ => some (none, cs)

/-- A floating-point number with a sign, unless it is too large. -/
def signed? (minus : Bool) (x : Float) : Option Toml :=
  if minus then some (.float (-x)) else if x.isInf then none else some (.float x)

/-- Reads a floating-point number in decimal notation. -/
def decimalFloat : Reader Toml := fun cs => do
  let (minus, cs) := sign cs
  let (whole, cs) ← decimalDigits cs
  let (part, cs) ← fraction cs
  let (e, cs) ← exponent cs
  if part = [] ∧ e = none then none
  else
    let x : Decimal := ⟨Decimal.ofDigits (whole ++ part), e.getD 0 - part.length⟩
    let t ← signed? minus x.nearest
    return (t, cs)

/-- Reads an infinity or what is not a number. -/
def namedFloat : Reader Toml := fun cs =>
  let (minus, cs) := sign cs
  let inf : Float := 1.0 / 0.0
  match cs with
  | 'i' :: 'n' :: 'f' :: rest => some (.float (if minus then -inf else inf), rest)
  | 'n' :: 'a' :: 'n' :: rest => some (.float (0.0 / 0.0), rest)
  | _ => none

/-- Reads a number of any kind. -/
def read : Reader Toml := fun cs =>
  (decimalFloat cs).or <| (namedFloat cs).or (integer cs)

end Number

end Toml

end BracketTemplate
