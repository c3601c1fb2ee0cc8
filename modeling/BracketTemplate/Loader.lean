/-
# Loaders

Where the text of sources comes from is left open to a render: a loader gives
the text at a path or says why there is none.  All that a render knows of the
world outside its text and its context it has from its loader.
-/

import BracketTemplate.Entries
import BracketTemplate.Render.Error

namespace BracketTemplate

/-- The text of the source at a path. -/
abbrev Loader := String → Except RenderError String

namespace Loader

/-- The loader of sources that are given with their paths. -/
def ofSources (sources : Entries String) : Loader := fun path =>
  match Entries.find? path sources with
  | some text => .ok text
  | none => .error (.sourceUnavailable path "no such source")

end Loader

end BracketTemplate
