/-
# Complaints about patterns

A `Flaw` is what is wrong with a pattern, and a `Complaint` says where.  It is
shown below the text of the pattern, with carets under the place: a pattern of
several lines has numbers in front of them and stands between two rules.

    regex parse error:
        a(b
         ^
    error: unclosed group
-/

import BracketTemplate.Decimal.Basic
import BracketTemplate.Pattern.Span

namespace BracketTemplate

namespace Pattern

/-- What can be wrong with a pattern. -/
inductive Flaw where
  | groupUnclosed
  | groupUnopened
  | groupNameEnds
  | groupNameEmpty
  | groupNameInvalid
  /-- A group has the name of an earlier one, which is written at a place. -/
  | groupNameTaken (earlier : Span)
  | flagUnknown
  | flagsEnd
  | flagTwice (earlier : Span)
  | negationTwice (earlier : Span)
  | negationOfNothing
  | nothingToRepeat
  | countUnclosed
  | countMissing
  | countTooLarge
  | countsReversed
  | escapeEnds
  | escapeUnknown
  | hexDigitInvalid
  | hexEmpty
  | hexNoCharacter
  | propertyInvalid
  | backReference
  | lookAround
  | boundaryUnclosed
  | boundaryUnknown
  /-- After a boundary of words a brace is not closed. -/
  | boundaryOrCountEnds
  | classUnclosed
  | classEscape
  | classBound
  | classReversed
  | tooDeep
  | notText
  | notBytes
  | propertyUnknown
  | propertyValueUnknown
  | shorthandUnavailable
  | caseUnavailable
  deriving DecidableEq, Repr, Inhabited

/-- How deep groups, classes and repetitions may be nested. -/
def maxDepth : Nat := 250

/-- The words for a flaw. -/
def Flaw.text : Flaw → String
  | .groupUnclosed => "unclosed group"
  | .groupUnopened => "unopened group"
  | .groupNameEnds => "unclosed capture group name"
  | .groupNameEmpty => "empty capture group name"
  | .groupNameInvalid => "invalid capture group character"
  | .groupNameTaken _ => "duplicate capture group name"
  | .flagUnknown => "unrecognized flag"
  | .flagsEnd => "expected flag but got end of regex"
  | .flagTwice _ => "duplicate flag"
  | .negationTwice _ => "flag negation operator repeated"
  | .negationOfNothing => "dangling flag negation operator"
  | .nothingToRepeat => "repetition operator missing expression"
  | .countUnclosed => "unclosed counted repetition"
  | .countMissing => "repetition quantifier expects a valid decimal"
  | .countTooLarge => "decimal literal invalid"
  | .countsReversed => "invalid repetition count range, the start must be <= the end"
  | .escapeEnds => "incomplete escape sequence, reached end of pattern prematurely"
  | .escapeUnknown => "unrecognized escape sequence"
  | .hexDigitInvalid => "invalid hexadecimal digit"
  | .hexEmpty => "hexadecimal literal empty"
  | .hexNoCharacter => "hexadecimal literal is not a Unicode scalar value"
  | .propertyInvalid => "invalid Unicode character class"
  | .backReference => "backreferences are not supported"
  | .lookAround => "look-around, including look-ahead and look-behind, is not supported"
  | .boundaryUnclosed =>
    "special word boundary assertion is either unclosed or contains an invalid character"
  | .boundaryUnknown =>
    "unrecognized special word boundary assertion, valid choices are: start, end, start-half " ++
      "or end-half"
  | .boundaryOrCountEnds =>
    "found either the beginning of a special word boundary or a bounded repetition on a \\b " ++
      "with an opening brace, but no closing brace"
  | .classUnclosed => "unclosed character class"
  | .classEscape => "invalid escape sequence found in character class"
  | .classBound => "invalid range boundary, must be a literal"
  | .classReversed => "invalid character class range, the start must be <= the end"
  | .tooDeep => s!"exceed the maximum number of nested parentheses/brackets ({maxDepth})"
  | .notText => "pattern can match invalid UTF-8"
  | .notBytes => "Unicode not allowed here"
  | .propertyUnknown => "Unicode property not found"
  | .propertyValueUnknown => "Unicode property value not found"
  | .shorthandUnavailable =>
    "Unicode-aware Perl class not found (make sure the unicode-perl feature is enabled)"
  | .caseUnavailable =>
    "Unicode-aware case insensitivity matching is not available " ++
      "(make sure the unicode-case feature is enabled)"

/-- The place that a flaw has to do with besides its own. -/
def Flaw.earlier? : Flaw → Option Span
  | .groupNameTaken earlier | .flagTwice earlier | .negationTwice earlier => some earlier
  | _ => none

/-- What is wrong with a pattern, and where. -/
structure Complaint where
  flaw : Flaw
  span : Span
  deriving DecidableEq, Repr, Inhabited

namespace Complaint

/-- The places of a complaint, in order. -/
def spans (c : Complaint) : List Span :=
  match c.flaw.earlier? with
  | none => [c.span]
  | some earlier => if earlier.isBefore c.span then [earlier, c.span] else [c.span, earlier]

/-- A line without the carriage return at its end. -/
def trimmedLine (line : List Char) : List Char :=
  if line.getLast? = some '\r' then line.dropLast else line

/-- The lines of a pattern.  Each but the last has lost its newline, together
with a carriage return in front of it, and a last line that is empty is none. -/
def patternLines (pattern : List Char) : List (List Char) :=
  let pieces := pattern.splitOn '\n'
  pieces.dropLast.map trimmedLine ++ (pieces.getLast?.toList.filter (· ≠ []))

/-- Text with blanks in front of it, up to a width. -/
def padded (width : Nat) (text : List Char) : List Char :=
  List.replicate (width - text.length) ' ' ++ text

/-- Carets under places of one line, from a column on. -/
def carets : (column : Nat) → List Span → List Char
  | _, [] => []
  | column, s :: rest =>
    let width := max 1 (s.stop.column - s.start.column)
    List.replicate (s.start.column - column) ' ' ++ List.replicate width '^' ++
      carets (max column s.start.column + width) rest

/-- One line of a pattern, with what stands in front of it and the carets below. -/
def notedLine (lead : List Char) (spans : List Span) (line : List Char) : List Char :=
  lead ++ line ++ ['\n'] ++
    match spans with
    | [] => []
    | spans => List.replicate lead.length ' ' ++ carets 1 spans ++ ['\n']

/-- The lines of a pattern from a number on, with carets below the places. -/
def notedLines (lead : Nat → List Char) (spans : List Span) : Nat → List (List Char) → List Char
  | _, [] => []
  | n, line :: rest =>
    notedLine (lead n) (spans.filter fun s => s.isOneLine && s.start.line == n) line ++
      notedLines lead spans (n + 1) rest

/-- A place of several lines, in words. -/
def spanText (s : Span) : String :=
  s!"on line {s.start.line} (column {s.start.column}) through line {s.stop.line} " ++
    s!"(column {s.stop.column - 1})\n"

/-- A rule between a pattern of several lines and what is said about it. -/
def rule : List Char := List.replicate 79 '~' ++ ['\n']

/-- What is said about a pattern. -/
def text (c : Complaint) (pattern : List Char) : String :=
  let lines := patternLines pattern
  let shown :=
    if pattern.contains '\n' then
      let width := (Decimal.digits (pattern.splitOn '\n').length).length
      let lead (n : Nat) := padded width (Decimal.digits n) ++ [':', ' ']
      String.ofList (rule ++ notedLines lead c.spans 1 lines ++ rule) ++
        String.join ((c.spans.filter (!·.isOneLine)).map spanText)
    else String.ofList (notedLines (fun _ => padded 4 []) c.spans 1 lines)
  "regex parse error:\n" ++ shown ++ "error: " ++ c.flaw.text

end Complaint

end Pattern

end BracketTemplate
