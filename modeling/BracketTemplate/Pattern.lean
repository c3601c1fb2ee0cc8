/-
# Patterns

A pattern describes texts, and `Pattern.occursIn` asks whether a text has a
piece of that form.  `Pattern.ofText` makes one from how it is written, or says
why it cannot: `Pattern.Syntax` has the table of what may be written, and
`Pattern.Meaning` that of what it stands for.
-/

import BracketTemplate.Pattern.Meaning
import BracketTemplate.Pattern.Reading
import BracketTemplate.Pattern.Size

namespace BracketTemplate

/-- A description of texts. -/
structure Pattern where
  expr : Pattern.Expr

/-- Why a text is not a pattern. -/
inductive PatternFault where
  | malformed (complaint : Pattern.Complaint)
  | tooLarge
  /-- It would have to be known which words there are in any script. -/
  | anyScript
  deriving DecidableEq, Repr, Inhabited

/-- What is said about a text that is not a pattern. -/
def PatternFault.message (text : String) : PatternFault → String
  | .malformed complaint => complaint.text text.toList
  | .tooLarge => s!"Compiled regex exceeds size limit of {Pattern.maxSize} bytes."
  | .anyScript => "error building NFA"

namespace Pattern

/-- The pattern that a text is. -/
def ofText (text : String) : Except PatternFault Pattern := do
  let node ← (Node.ofText text.toList).mapError .malformed
  let (expr, _) ← (node.meaning {}).mapError .malformed
  if maxSize < node.size then throw .tooLarge
  if expr.asksAnyScript then throw .anyScript
  return ⟨expr⟩

/-- Whether a text has a piece of the form that a pattern describes. -/
def occursIn (p : Pattern) (text : String) : Bool := p.expr.occursIn text.toList

end Pattern

end BracketTemplate
