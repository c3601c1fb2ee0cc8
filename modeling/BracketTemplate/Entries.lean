/-
# Named entries in name order

A list of names with what is stored under them, kept in increasing order of
the names (compared by code points).  Tables of template variables, the objects
of a JSON text, the tables of a TOML text and the folders of a file tree are all
of this form, so that two of them with the same content are the same list.

`find?_insert_self` and `find?_insert_of_ne` say what a later `find?` sees of an
`insert`, for every list, ordered or not.
-/

namespace BracketTemplate

universe u v

/-- Names with what is stored under them. -/
abbrev Entries (α : Type u) := List (String × α)

namespace Entries

variable {α : Type u} {β : Type v}

/-- What is stored under `name`. -/
def find? (name : String) : Entries α → Option α
  | [] => none
  | (other, a) :: rest => if other = name then some a else find? name rest

/-- Stores `a` under `name`, in place of what was there. -/
def insert (name : String) (a : α) : Entries α → Entries α
  | [] => [(name, a)]
  | (other, b) :: rest =>
    if other = name then (name, a) :: rest
    else if name < other then (name, a) :: (other, b) :: rest
    else (other, b) :: insert name a rest

/-- Leaves out what is stored under `name`. -/
def erase (name : String) (entries : Entries α) : Entries α :=
  entries.filter fun entry => entry.1 != name

/-- The entries of a list of pairs; of two with one name the later counts. -/
def ofList (pairs : List (String × α)) : Entries α :=
  pairs.foldl (fun entries pair => insert pair.1 pair.2 entries) []

/-- The names, in order. -/
def names (entries : Entries α) : List String :=
  entries.map (·.1)

@[simp] theorem find?_nil (name : String) : find? name ([] : Entries α) = none := rfl

/-- What was stored last is found. -/
@[simp] theorem find?_insert_self (name : String) (a : α) (entries : Entries α) :
    find? name (insert name a entries) = some a := by
  induction entries with
  | nil => simp [insert, find?]
  | cons entry rest ih =>
    obtain ⟨other, b⟩ := entry
    unfold insert
    split
    · simp [find?]
    · rename_i h
      split <;> simp [find?, h, ih]

/-- Storing under one name changes nothing under another. -/
theorem find?_insert_of_ne {name other : String} (h : name ≠ other) (a : α)
    (entries : Entries α) : find? other (insert name a entries) = find? other entries := by
  induction entries with
  | nil => simp [insert, find?, h]
  | cons entry rest ih =>
    obtain ⟨x, b⟩ := entry
    unfold insert
    split
    · rename_i hx
      subst hx
      simp [find?, h]
    · split <;> simp [find?, h, ih]

/-- `find?` commutes with a change of what is stored. -/
theorem find?_map (f : α → β) (name : String) (entries : Entries α) :
    find? name (entries.map fun entry => (entry.1, f entry.2)) = (find? name entries).map f := by
  induction entries with
  | nil => rfl
  | cons entry rest ih =>
    simp only [List.map_cons, find?]
    split
    · rfl
    · exact ih

end Entries

end BracketTemplate
