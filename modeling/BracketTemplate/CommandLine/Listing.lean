/-
# Listings of directives

The directives of a template, one on a line with its line number, its kind and
what it is about, or all of them as JSON.
-/

import BracketTemplate.CommandLine.Notice
import BracketTemplate.Json.Printing
import BracketTemplate.Template

namespace BracketTemplate

namespace CommandLine

/-- A text with blanks in front, up to a width. -/
def padLeft (width : Nat) (text : String) : String :=
  String.ofList (List.replicate (width - text.length) ' ') ++ text

/-- A text with blanks behind, up to a width. -/
def padRight (width : Nat) (text : String) : String :=
  text ++ String.ofList (List.replicate (width - text.length) ' ')

/-- What a directive is about: the variable that it prints, or its arguments. -/
def subject (d : Directive) : String :=
  match d.kind with
  | .variable => d.keyword
  | _ => String.intercalate ":" d.args

/-- The line of a directive. -/
def listingLine (color : Bool) (d : Directive) : String :=
  let number := padLeft 5 (String.ofList (Decimal.digits d.line))
  let kind := paint color "36" (padRight 9 d.kind.name)
  s!"{number}  {kind}  {subject d}\n"

/-- The listing of some directives. -/
def listing (color : Bool) (directives : List Directive) : String :=
  match directives with
  | [] => s!"{missingMark color} No directives found\n"
  | _ :: _ =>
    String.join (directives.map (listingLine color)) ++
      s!"\n{doneMark color} {directives.length} directive(s)\n"

/-- A directive as a JSON object. -/
def directiveJson (d : Directive) : Json :=
  .object [("kind", .string d.kind.name), ("keyword", .string d.keyword),
    ("args", .array (d.args.map .string)), ("start", .integer d.start), ("end", .integer d.stop),
    ("line", .integer d.line)]

/-- The listing of some directives as JSON. -/
def jsonListing (directives : List Directive) : String :=
  Json.pretty (.array (directives.map directiveJson)) ++ "\n"

end CommandLine

end BracketTemplate
