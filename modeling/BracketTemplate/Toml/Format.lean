/-
# Reading and writing TOML

A document is the list of the entries of its outermost table.  `Toml.Format` is a
way to read and to write documents: a text that is read or a document that is written
may be refused, for a reason.  `Toml.format` reads with `Toml.read?` and writes what
settings are made of, one table of strings:

| line | of |
| --- | --- |
| `[name]` | the table |
| `key = string` | each of its entries, in order |
-/

import BracketTemplate.Toml.Quoting
import BracketTemplate.Toml.Reading

namespace BracketTemplate

namespace Toml

/-- A way to read and to write documents. -/
structure Format where
  read : String → Except String (List (String × Toml))
  write : List (String × Toml) → Except String String

/-- A string under its key, on a line of its own. -/
def line (key value : String) : String :=
  key ++ " = " ++ String.ofList (Quoting.quote value.toList) ++ "\n"

/-- The lines of some entries, unless there is one that is not a string. -/
def writeEntries : List (String × Toml) → Except String String
  | [] => .ok ""
  | (key, .string value) :: rest => (writeEntries rest).map (line key value ++ ·)
  | _ :: _ => .error "unsupported value"

/-- Writes a document that is one table of strings. -/
def write : List (String × Toml) → Except String String
  | [(name, .table entries)] => (writeEntries entries).map ("[" ++ name ++ "]\n" ++ ·)
  | _ => .error "unsupported document"

/-- Documents as settings are read from and written to. -/
def format : Format where
  read text :=
    match read? text with
    | some entries => .ok entries
    | none => .error "TOML parse error"
  write := write

end Toml

end BracketTemplate
