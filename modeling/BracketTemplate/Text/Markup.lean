/-
# Text inside markup

Text that is put into markup has its angle brackets spelled out, first `<` as
`&lt;` and then `>` as `&gt;`.  Ampersands and quotes stay as they are, so text
that already holds `&lt;` keeps it.
-/

namespace BracketTemplate

namespace Text

/-- The text with `spelling` in place of every `c`. -/
def replaceChar (c : Char) (spelling : List Char) (text : List Char) : List Char :=
  text.flatMap fun d => if d = c then spelling else [d]

/-- The text with its angle brackets spelled out. -/
def escapeAngles (text : String) : String :=
  String.ofList
    (replaceChar '>' ['&', 'g', 't', ';'] (replaceChar '<' ['&', 'l', 't', ';'] text.toList))

end Text

end BracketTemplate
