/-
# Putting tables together

A TOML text says piece by piece what its tables hold: under the header of a
table, under the header of one more table of an array, and under dotted keys.
Here the pieces are put together, or refused when they contradict one another.

How a table came about decides what may be added to it:

| the table | a header `[t]` | a header `[t.u]` | a key `t.u = …` |
| --- | --- | --- | --- |
| has a header of its own | no | yes | no |
| is part of another table's header | yes, once | yes | no |
| is part of a dotted key | no | yes | yes |

A value, an inline table among them, is complete as it stands.  A key or header
that leads through an array of tables means the last of them.

What a table holds stands in the order in which it came about.  A table that was
part of another's header stands last once it has a header of its own.
-/

import BracketTemplate.Entries
import BracketTemplate.Toml

namespace BracketTemplate

namespace Toml

/-- How a table came about. -/
inductive Origin where
  /-- It has a header of its own, or is the outermost table. -/
  | stated
  /-- It is part of another table's header. -/
  | header
  /-- It is part of a dotted key. -/
  | dottedKey
  deriving DecidableEq, Repr, Inhabited

/-- A table in the making and what is in it. -/
inductive Node where
  /-- A value that is complete. -/
  | value (t : Toml)
  | table (origin : Origin) (entries : List (String × Node))
  /-- An array of tables, each of them a `table`. -/
  | tables (items : List Node)
  deriving Inhabited

/-- A key with its value; all segments of a dotted key but the last lead to a table. -/
structure Assignment where
  path : List String
  key : String
  value : Toml

/-- A header with the assignments under it.  All segments of the header but the
last lead to the table that holds it. -/
structure Section where
  oneOfMany : Bool
  path : List String
  key : String
  assignments : List Assignment

namespace Node

/-- Stores a node under a name, in place of what was there or else at the end. -/
def store (name : String) (n : Node) : Entries Node → Entries Node
  | [] => [(name, n)]
  | (other, m) :: rest =>
    if other = name then (name, n) :: rest else (other, m) :: store name n rest

/-- The table that an entry leads to when more is added to it through a header
or a key: how it came about, what it holds and how to put it back. -/
def inner? (through : Origin) : Option Node →
    Option (Origin × Entries Node × (Entries Node → Node))
  | none => some (through, [], .table through)
  | some (.value _) => none
  | some (.table origin entries) =>
    if through = .dottedKey ∧ origin = .stated then none
    else some (origin, entries, .table origin)
  | some (.tables items) =>
    match items.getLast? with
    | some (.table origin entries) =>
      some (origin, entries, fun entries => .tables (items.dropLast ++ [.table origin entries]))
    | _ => none

/-- Changes the table to which a path leads. -/
def modify (through : Origin) (f : Origin → Entries Node → Option (Entries Node)) :
    (path : List String) → Origin → Entries Node → Option (Entries Node)
  | [], origin, entries => f origin entries
  | name :: path, _, entries => do
    let (origin, inner, put) ← inner? through (Entries.find? name entries)
    let inner ← modify through f path origin inner
    return store name (put inner) entries

/-- Adds an assignment to a table.  A dotted key may end only in a table that
came about through dotted keys. -/
def assign (entries : Entries Node) (a : Assignment) : Option (Entries Node) :=
  modify .dottedKey (fun origin inner =>
    if (origin = .dottedKey) = (a.path = []) then none
    else
      match Entries.find? a.key inner with
      | none => some (store a.key (.value a.value) inner)
      | some _ => none) a.path .stated entries

/-- Adds assignments to a table, one after another. -/
def assignAll (assignments : List Assignment) (entries : Entries Node) : Option (Entries Node) :=
  assignments.foldlM assign entries

/-- Adds a section to the outermost table. -/
def place (root : Entries Node) (s : Section) : Option (Entries Node) :=
  modify .header (fun _ entries =>
    match s.oneOfMany, Entries.find? s.key entries with
    | true, none => do
      let inner ← assignAll s.assignments []
      return store s.key (.tables [.table .stated inner]) entries
    | true, some (.tables items) => do
      let inner ← assignAll s.assignments []
      return store s.key (.tables (items ++ [.table .stated inner])) entries
    | false, none => do
      let inner ← assignAll s.assignments []
      return store s.key (.table .stated inner) entries
    | false, some (.table .header before) => do
      let inner ← assignAll s.assignments before
      return store s.key (.table .stated inner) (Entries.erase s.key entries)
    | _, some _ => none) s.path .stated root

mutual

/-- What a table in the making comes to. -/
def toToml : Node → Toml
  | .value t => t
  | .table _ entries => .table (entriesToToml entries)
  | .tables items => .array (listToToml items)

/-- What the entries of a table in the making come to. -/
def entriesToToml : List (String × Node) → List (String × Toml)
  | [] => []
  | (name, n) :: rest => (name, n.toToml) :: entriesToToml rest

/-- What an array of tables in the making comes to. -/
def listToToml : List Node → List Toml
  | [] => []
  | n :: rest => n.toToml :: listToToml rest

end

end Node

/-- The table with some assignments, if they do not contradict one another. -/
def ofAssignments? (assignments : List Assignment) : Option (List (String × Toml)) :=
  (Node.assignAll assignments []).map Node.entriesToToml

/-- The table with some assignments and sections, if they do not contradict one another. -/
def ofSections? (assignments : List Assignment) (sections : List Section) :
    Option (List (String × Toml)) := do
  let root ← Node.assignAll assignments []
  let root ← sections.foldlM Node.place root
  return Node.entriesToToml root

end Toml

end BracketTemplate
