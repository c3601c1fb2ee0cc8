/-
# Contexts

A context is the table of variables that a template renders against.  One
context goes through a whole render, components included; a loop stores each
element under its binding there, and the last one stays.

`get?` takes a name as it is and `lookup?` takes it apart at its dots: the first
segment is a name of the table and each further one a step into the value
(`Value.child?`).  A name that contains a dot can therefore be stored and got
but not looked up.
-/

import BracketTemplate.Value

namespace BracketTemplate

/-- The variables of a render, in name order. -/
structure Context where
  bindings : List (String × Value)
  deriving Inhabited

namespace Context

/-- The context with no variable. -/
def empty : Context := ⟨[]⟩

/-- The context of a list of pairs; of two with one name the later counts. -/
def ofPairs (pairs : List (String × Value)) : Context := ⟨Entries.ofList pairs⟩

/-- The value stored under a name. -/
def get? (context : Context) (name : String) : Option Value :=
  Entries.find? name context.bindings

/-- Stores a value under a name. -/
def set (context : Context) (name : String) (value : Value) : Context :=
  ⟨Entries.insert name value context.bindings⟩

/-- The segments of a dotted name; there is always one. -/
def segments (path : String) : List String :=
  (path.toList.splitOn '.').map String.ofList

/-- The value that a dotted name reaches. -/
def lookup? (context : Context) (path : String) : Option Value :=
  match segments path with
  | [] => none
  | first :: rest => (context.get? first).bind (·.walk? rest)

/-- The number of variables. -/
def size (context : Context) : Nat := context.bindings.length

/-- Whether there is no variable. -/
def isEmpty (context : Context) : Bool := context.bindings.isEmpty

/-- The names of the variables, in order. -/
def names (context : Context) : List String := Entries.names context.bindings

/-- What was set last is got. -/
@[simp] theorem get?_set_self (context : Context) (name : String) (value : Value) :
    (context.set name value).get? name = some value :=
  Entries.find?_insert_self name value context.bindings

/-- Setting one name changes no other. -/
theorem get?_set_of_ne {name other : String} (h : name ≠ other) (context : Context)
    (value : Value) : (context.set name value).get? other = context.get? other :=
  Entries.find?_insert_of_ne h value context.bindings

end Context

end BracketTemplate
