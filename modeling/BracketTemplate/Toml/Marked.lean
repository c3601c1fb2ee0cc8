/-
# Tables that stand for moments

A table whose first key is `momentKey` stands for a moment, which is the text
under that key; what else the table holds does not count.  `settle?` puts the
moments in place of such tables and the entries of the others into name order.
The outermost table always stands for itself.

The text must be a moment as a whole, and bounds are wider than for a moment
that is written without quotes.

| part | without quotes | as a text |
| --- | --- | --- |
| hour | at most 23 | at most 24 |
| hours and minutes of an offset | at most 23 and 59 | any digits, together at most 24 hours |
-/

import BracketTemplate.Toml

namespace BracketTemplate

namespace Moment

/-- The offset that a whole text is; the empty text is none. -/
def offset? : List Char → Option (Option Offset)
  | [] => some none
  | ['Z'] | ['z'] => some (some .universal)
  | sign :: rest => do
    let (hours, rest) ← number 2 0 99 rest
    let (minutes, rest) ← numberAfter ':' 2 0 99 rest
    let total := 60 * hours + minutes
    if rest ≠ [] ∨ 24 * 60 < total then none
    else if sign = '+' then some (some (.minutes total))
    else if sign = '-' then some (some (.minutes (-total)))
    else none

/-- The moment that a whole text is. -/
def ofText? (text : List Char) : Option Moment :=
  match readDate text with
  | some (d, []) => some (.date d)
  | some (d, c :: rest) =>
    if isTimeMark c then do
      let (t, rest) ← readTimeUpTo 24 rest
      let offset ← offset? rest
      return .dateTime d t offset
    else none
  | none =>
    match readTimeUpTo 24 text with
    | some (t, []) => some (.time t)
    | _ => none

end Moment

namespace Toml

/-- The key that makes a table stand for a moment. -/
def momentKey : String := "$__toml_private_datetime"

/-- The moment under the key that marks it. -/
def markedMoment? : Toml → Option Toml
  | .string s => (Moment.ofText? s.toList).map .moment
  | _ => none

mutual

/-- The value with moments in place of the tables that stand for them, unless one
of those has no moment under its key. -/
def settle? : Toml → Option Toml
  | .array items => (settleList? items).map .array
  | .table [] => some (.table [])
  | .table ((name, t) :: rest) =>
    if name = momentKey then markedMoment? t
    else do
      let t ← settle? t
      let rest ← settlePairs? rest
      return .table (Entries.ofList ((name, t) :: rest))
  | t => some t

/-- The values of a list, each settled. -/
def settleList? : List Toml → Option (List Toml)
  | [] => some []
  | t :: rest => do
    let t ← settle? t
    let rest ← settleList? rest
    return t :: rest

/-- The values under some keys, each settled. -/
def settlePairs? : List (String × Toml) → Option (List (String × Toml))
  | [] => some []
  | (name, t) :: rest => do
    let t ← settle? t
    let rest ← settlePairs? rest
    return (name, t) :: rest

end

/-- The entries of the outermost table, settled and in name order. -/
def settleEntries? (entries : List (String × Toml)) : Option (List (String × Toml)) :=
  (settlePairs? entries).map Entries.ofList

end Toml

end BracketTemplate
