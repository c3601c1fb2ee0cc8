/-
# Log filters

Which log messages are shown is said by a specification: rules between commas,
and after a slash a pattern that occurs in every message.

| rule | shows |
| --- | --- |
| `debug` | messages up to a level, whatever part of the program they are from |
| `part=debug` | those of the parts of the program whose names start with `part` |
| `part`, `part=` | all of those |
| `off`, `part=off` | none |

Of the rules for a message the one with the longest name counts.  Without any
rule only errors are shown; with rules, nothing that none of them is for.  A
rule or pattern that cannot be read is left out, and something is said about it.
-/

import BracketTemplate.Pattern
import BracketTemplate.Render.Event
import BracketTemplate.Text.Fields

namespace BracketTemplate

namespace CommandLine

/-- What is shown of the parts of the program whose names start with `part?`, or
of all: messages up to a rank. -/
structure LogRule where
  part? : Option String
  rank : Nat
  deriving DecidableEq, Repr

/-- Which messages are shown: those for which the rules are and in which the
pattern occurs, if there is one. -/
structure LogFilter where
  rules : List LogRule
  pattern? : Option Pattern

namespace LogFilter

/-- The rank up to which a word shows messages. -/
def rankOf? (word : List Char) : Option Nat :=
  match String.ofList (word.map Char.toUpper) with
  | "OFF" => some 0
  | "ERROR" => some Level.error.rank
  | "WARN" => some Level.warn.rank
  | "INFO" => some Level.info.rank
  | "DEBUG" => some Level.debug.rank
  | "TRACE" => some Level.trace.rank
  | _ => none

/-- Reads a rule, or gives what cannot be read. -/
def readRule (text : List Char) : Except (List Char) LogRule :=
  match Text.fields '=' text with
  | [word] =>
    match rankOf? word with
    | some rank => .ok ⟨none, rank⟩
    | none => .ok ⟨some (String.ofList word), Level.trace.rank⟩
  | [part, word] =>
    let word := Text.trim word
    if word = [] then .ok ⟨some (String.ofList part), Level.trace.rank⟩
    else
      match rankOf? word with
      | some rank => .ok ⟨some (String.ofList part), rank⟩
      | none => .error word
  | _ => .error text

/-- Adds a rule, in place of one for the same part. -/
def addRule (rules : List LogRule) (rule : LogRule) : List LogRule :=
  if rules.any (·.part? = rule.part?) then
    rules.map fun other => if other.part? = rule.part? then rule else other
  else rules ++ [rule]

/-- What is said about a rule that cannot be read. -/
def warning (rule : List Char) (reason : String) : String :=
  s!"warning: invalid logging spec '{String.ofList rule}'{reason}, ignoring it"

/-- Reads the rules between commas. -/
def readRules : List (List Char) → List LogRule × List String
  | [] => ([], [])
  | text :: rest =>
    let (rules, warnings) := readRules rest
    if text = [] then (rules, warnings)
    else
      match readRule text with
      | .ok rule => (rule :: rules, warnings)
      | .error part => (rules, warning part "" :: warnings)

/-- The rules that count: without any, only errors are shown. -/
def effective (rules : List LogRule) : List LogRule :=
  match rules.foldl addRule [] with
  | [] => [⟨none, Level.error.rank⟩]
  | rules => rules

/-- Reads a pattern, and says what is wrong with one that cannot be read. -/
def readPattern (text : String) : Option Pattern × List String :=
  match Pattern.ofText text with
  | .ok pattern => (some pattern, [])
  | .error fault =>
    (none, [s!"warning: invalid regex filter - {fault.message text}, ignoring it"])

/-- Reads a specification, and says what of it cannot be read. -/
def ofSpec (spec : String) : LogFilter × List String :=
  match Text.fields '/' spec.toList with
  | rules :: parts =>
    let (read, warnings) := readRules ((Text.fields ',' rules).map Text.trim)
    match parts with
    | [] => (⟨effective read, none⟩, warnings)
    | [text] =>
      let (pattern?, more) := readPattern (String.ofList text)
      (⟨effective read, pattern?⟩, warnings ++ more)
    | _ => (⟨effective [], none⟩, [warning spec.toList " (too many '/'s)"])
  | [] => (⟨effective [], none⟩, [])

/-- The size of the name of a rule, in bytes. -/
def LogRule.size (rule : LogRule) : Nat := (rule.part?.map String.utf8ByteSize).getD 0

/-- Whether a rule is for the messages of a part of the program. -/
def LogRule.isFor (rule : LogRule) (target : String) : Bool :=
  match rule.part? with
  | none => true
  | some part => part.toList.isPrefixOf target.toList

/-- The rule that counts for a part of the program: of the longest ones the last. -/
def ruleFor? (target : String) : List LogRule → Option LogRule
  | [] => none
  | rule :: rest =>
    match ruleFor? target rest with
    | none => if LogRule.isFor rule target then some rule else none
    | some other =>
      if LogRule.isFor rule target ∧ LogRule.size other < LogRule.size rule then some rule
      else some other

/-- Whether a message is shown. -/
def shows (f : LogFilter) (m : Message) : Bool :=
  match ruleFor? m.target f.rules with
  | none => false
  | some rule => m.level.rank ≤ rule.rank && f.pattern?.all (·.occursIn m.text)

end LogFilter

end CommandLine

end BracketTemplate
