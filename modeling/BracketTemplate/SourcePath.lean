/-
# Paths of sources

A source is addressed by a text, whether it is a file or not: the folder it is
in, one slash, and its name with the extension of all sources.  Slashes at the
end of the folder and at the start of the name are dropped first, so that there
is one at the seam however many were written.
-/

namespace BracketTemplate

namespace SourcePath

/-- The text without the slashes at its start. -/
def dropLeading (text : List Char) : List Char := text.dropWhile (· == '/')

/-- The text without the slashes at its end. -/
def dropTrailing (text : List Char) : List Char := (dropLeading text.reverse).reverse

/-- The path of `rest` in the folder `base`. -/
def join (base rest : String) : String :=
  String.ofList (dropTrailing base.toList ++ '/' :: dropLeading rest.toList)

/-- The name of the file with the source called `name`. -/
def fileName (name extension : String) : String := name ++ extension

end SourcePath

end BracketTemplate
