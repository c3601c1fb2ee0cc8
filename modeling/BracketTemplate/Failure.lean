/-
# Failures

What can go wrong outside a render: settings or a context are refused, a file
cannot be written, or a render failed and is reported as one failure among
these.  `Failure.message` starts with a word for the part that failed.
-/

import BracketTemplate.Json
import BracketTemplate.Render.Error
import BracketTemplate.Settings

namespace BracketTemplate

/-- What went wrong. -/
inductive Failure where
  | settings (cause : SettingsError)
  | context (cause : ContextError)
  | render (cause : RenderError)
  /-- A file could not be written. -/
  | write (reason : String)
  deriving DecidableEq, Repr, Inhabited

/-- What is said about a failure. -/
def Failure.message : Failure → String
  | .settings cause => cause.message
  | .context cause => cause.message
  | .render cause => "TEMPLATE_ERROR: " ++ cause.message
  | .write reason => "IO_ERROR: " ++ reason

end BracketTemplate
