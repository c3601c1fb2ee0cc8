/-
# Lines, and leaving the blank ones out

The lines of a text are the pieces between its newlines, so that a text with
`n` newlines has `n + 1` lines, and `"a\n"` ends in an empty one.
`stripBlankLines` keeps the lines that have a character other than white space
and joins them again; a carriage return is white space like any other and stays
at the end of a line that is kept.
-/

import BracketTemplate.Text.Blank

namespace BracketTemplate

namespace Text

/-- The pieces between the newlines. -/
def lines (text : List Char) : List (List Char) := text.splitOn '\n'

/-- Joins lines with one newline between two. -/
def joinLines (lines : List (List Char)) : List Char := ['\n'].intercalate lines

/-- The text without its blank lines.  A newline at the end is not kept. -/
def stripBlankLines (text : String) : String :=
  String.ofList (joinLines ((lines text.toList).filter fun line => !isBlank line))

end Text

end BracketTemplate
