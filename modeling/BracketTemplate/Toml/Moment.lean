/-
# Dates and times

A moment is a date, a time, or a date with a time and maybe an offset from
universal time.  It is read as it is written, so neither zones nor leap seconds
are calculated with: the second may be 60 on any day.

| written | read and printed |
| --- | --- |
| `1979-05-27` | date |
| `07:32:00.500` | time, printed `07:32:00.5` |
| `1979-05-27T07:32:00` | date and time |
| `1979-05-27 07:32:00Z` | date, time and offset, printed with `T` |
| `1979-05-27t07:32:00-07:00` | date, time and offset, printed with `T` |

Of a fraction the first nine digits count, and zeros at its end are not printed.
-/

import BracketTemplate.Decimal.Basic
import BracketTemplate.Text.Reader

namespace BracketTemplate

namespace Moment

/-- A day of the calendar. -/
structure Date where
  year : Nat
  month : Nat
  day : Nat
  deriving DecidableEq, Repr, Inhabited

/-- A time of day, to the nanosecond. -/
structure Time where
  hour : Nat
  minute : Nat
  second : Nat
  nanosecond : Nat
  deriving DecidableEq, Repr, Inhabited

/-- An offset from universal time, by name or in minutes. -/
inductive Offset where
  | universal
  | minutes (n : Int)
  deriving DecidableEq, Repr, Inhabited

end Moment

/-- A date, a time, or both. -/
inductive Moment where
  | date (d : Moment.Date)
  | time (t : Moment.Time)
  | dateTime (d : Moment.Date) (t : Moment.Time) (offset : Option Moment.Offset)
  deriving DecidableEq, Repr, Inhabited

namespace Moment

/-! ## Printing -/

/-- A number with zeros in front, up to a width. -/
def padded (width n : Nat) : List Char :=
  let ds := Decimal.digits n
  List.replicate (width - ds.length) '0' ++ ds

/-- A date as it is printed. -/
def Date.text (d : Date) : List Char :=
  padded 4 d.year ++ '-' :: padded 2 d.month ++ '-' :: padded 2 d.day

/-- The fraction of a second as it is printed. -/
def fractionText (nanosecond : Nat) : List Char :=
  if nanosecond = 0 then []
  else '.' :: ((padded 9 nanosecond).reverse.dropWhile (· == '0')).reverse

/-- A time as it is printed. -/
def Time.text (t : Time) : List Char :=
  padded 2 t.hour ++ ':' :: padded 2 t.minute ++ ':' :: padded 2 t.second ++
    fractionText t.nanosecond

/-- An offset as it is printed. -/
def Offset.text : Offset → List Char
  | .universal => ['Z']
  | .minutes n =>
    (if n < 0 then '-' else '+') ::
      (padded 2 (n.natAbs / 60) ++ ':' :: padded 2 (n.natAbs % 60))

/-- A moment as it is printed. -/
def text (m : Moment) : String :=
  String.ofList <|
    match m with
    | .date d => d.text
    | .time t => t.text
    | .dateTime d t offset => d.text ++ 'T' :: t.text ++ (offset.map Offset.text).getD []

/-! ## Reading -/

/-- Reads a number of exactly `width` digits between two bounds. -/
def number (width least greatest : Nat) : Reader Nat := fun cs =>
  let ds := cs.take width
  if ds.length = width ∧ ds.all Decimal.isDigit then
    let n := Decimal.ofDigits ds
    if least ≤ n ∧ n ≤ greatest then some (n, cs.drop width) else none
  else none

/-- Reads a number after a separator. -/
def numberAfter (c : Char) (width least greatest : Nat) : Reader Nat := fun cs =>
  match cs with
  | d :: rest => if d = c then number width least greatest rest else none
  | [] => none

/-- The number of days of a month. -/
def daysIn (year month : Nat) : Nat :=
  if month = 2 then
    if year % 4 = 0 ∧ (year % 100 ≠ 0 ∨ year % 400 = 0) then 29 else 28
  else if month ∈ [4, 6, 9, 11] then 30
  else 31

/-- Reads a date. -/
def readDate : Reader Date := fun cs => do
  let (year, cs) ← number 4 0 9999 cs
  let (month, cs) ← numberAfter '-' 2 1 12 cs
  let (day, cs) ← numberAfter '-' 2 1 (daysIn year month) cs
  return (⟨year, month, day⟩, cs)

/-- Reads the fraction of a second, if there is one. -/
def readFraction : Reader Nat := fun cs =>
  match cs with
  | '.' :: rest => do
    let (ds, rest) ← Reader.takeSome Decimal.isDigit rest
    let ds := ds.take 9
    return (Decimal.ofDigits ds * Nat.pow 10 (9 - ds.length), rest)
  | _ => some (0, cs)

/-- Reads a time, up to an hour. -/
def readTimeUpTo (lastHour : Nat) : Reader Time := fun cs => do
  let (hour, cs) ← number 2 0 lastHour cs
  let (minute, cs) ← numberAfter ':' 2 0 59 cs
  let (second, cs) ← numberAfter ':' 2 0 60 cs
  let (nanosecond, cs) ← readFraction cs
  return (⟨hour, minute, second, nanosecond⟩, cs)

/-- Reads a time of a day. -/
def readTime : Reader Time := readTimeUpTo 23

/-- Reads an offset, if there is one. -/
def readOffset : Reader (Option Offset) := fun cs =>
  let counted (sign : Int) (rest : List Char) : Option (Option Offset × List Char) := do
    let (hours, rest) ← number 2 0 23 rest
    let (minutes, rest) ← numberAfter ':' 2 0 59 rest
    return (some (.minutes (sign * (60 * hours + minutes : Nat))), rest)
  match cs with
  | 'Z' :: rest | 'z' :: rest => some (some .universal, rest)
  | '+' :: rest => counted 1 rest
  | '-' :: rest => counted (-1) rest
  | _ => some (none, cs)

/-- Whether a character stands between a date and a time. -/
def isTimeMark (c : Char) : Bool := c == 'T' || c == 't' || c == ' '

/-- Whether a text goes on with a time, as far as its hour tells. -/
def startsWithHour (cs : List Char) : Bool :=
  match number 2 0 23 cs with
  | some (_, ':' :: _) => true
  | _ => false

/-- Reads what may follow a date. -/
def readAfterDate (d : Date) : Reader Moment := fun cs =>
  match cs with
  | c :: rest =>
    if isTimeMark c ∧ startsWithHour rest then do
      let (t, rest) ← readTime rest
      let (offset, rest) ← readOffset rest
      return (.dateTime d t offset, rest)
    else some (.date d, cs)
  | [] => some (.date d, [])

/-- Reads a moment. -/
def read : Reader Moment := fun cs =>
  match readDate cs with
  | some (d, rest) => readAfterDate d rest
  | none => (readTime cs).map fun (t, rest) => (.time t, rest)

end Moment

end BracketTemplate
