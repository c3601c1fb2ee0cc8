/-
# Going through one template

The directives of a template are gone through with a cursor.  What a directive
decides is where the cursor goes (`Flow`): on to what follows, past the block
that the directive opens, or back to the loop that it closes.

| directive | condition | flow |
| --- | --- | --- |
| loop | reached by going back | next |
| | over no items | skip to its closing |
| | otherwise | opens a frame, next |
| end of loop | items left in the innermost frame | rewind to its loop |
| | none left | closes the frame, next |
| condition | holds | next |
| | does not hold | skip to its closing |
| any other | | next |

Going on and skipping are steps, and one text may take `maxSteps + 1` of them.
Going back is free, but the loop gone back to is only passed, and to pass it is
a step: so a text has no more than `maxTurns` turns, and `run`, which gives it
as many, sees every render to its end.

Which directive closes a loop is a matter of the order in which they are
reached.  A condition that does not hold may hide the end of a loop opened
before it, and then the loop is still open when the text ends.
-/

import BracketTemplate.Block
import BracketTemplate.Render.Event
import BracketTemplate.Render.Variable
import BracketTemplate.Template
import BracketTemplate.Text.Markup

namespace BracketTemplate

/-- An open loop: the index of its directive, the directive, the name it binds,
its items as they were when it opened and the index of the current one. -/
structure Frame where
  origin : Nat
  opener : Directive
  binding? : Option String
  items : List Value
  current : Nat
  deriving Inhabited

/-- The result of a render, the context it leaves and what it did. -/
structure Run where
  result : Except RenderError String
  context : Context
  events : List Event

namespace Run

/-- The run with earlier events in front. -/
def after (events : List Event) (r : Run) : Run := { r with events := events ++ r.events }

/-- What a run comes to, without how it came to it. -/
def outcome (r : Run) : Except RenderError String × Context := (r.result, r.context)

end Run

/-- How a component is rendered: from its name, the line that includes it apart,
and the context to a run. -/
abbrev Inclusion := String → Context → Run

/-- Where a render stands: the index of the directive to come to next, the steps
taken, the open loops with the innermost first, the output so far and the context. -/
structure State where
  cursor : Nat
  steps : Nat
  loops : List Frame
  output : String
  context : Context
  deriving Inhabited

namespace State

/-- Adds to the output. -/
def emit (s : State) (text : String) : State := { s with output := s.output ++ text }

/-- Stores a value under the name that a loop binds, if it binds one. -/
def bind (s : State) (binding? : Option String) (value : Value) : State :=
  match binding? with
  | some name => { s with context := s.context.set name value }
  | none => s

/-- Whether the innermost open loop is the one at the cursor. -/
def isReentry (s : State) : Bool :=
  match s.loops with
  | f :: _ => f.origin == s.cursor
  | [] => false

end State

/-- Where the cursor goes after a directive. -/
inductive Flow where
  /-- On to the text after the directive. -/
  | next
  /-- To the text after the directive at an index. -/
  | skipTo (index : Nat)
  /-- Back to the directive at an index. -/
  | rewind (index : Nat)
  deriving DecidableEq, Repr, Inhabited

/-- What a directive did: where the cursor goes or why the render fails, the
state with the cursor still at the directive, and the events. -/
structure Dispatch where
  flow : Except RenderError Flow
  state : State
  events : List Event

namespace Dispatch

/-- The directive fails and changes nothing. -/
def fail (s : State) (e : RenderError) : Dispatch := ⟨.error e, s, []⟩

/-- The directive prints a text, or fails. -/
def print (s : State) : Except RenderError String → Dispatch
  | .ok text => ⟨.ok .next, s.emit text, []⟩
  | .error e => fail s e

end Dispatch

namespace Machine

/-- The steps after which no directive is come to any more. -/
def maxSteps : Nat := 200

/-- The turns that a render takes at most: its steps, as many returns to a loop,
each of which a step follows, and less than one more for the end. -/
def maxTurns : Nat := 2 * (maxSteps + 1)

/-- The index of the directive that closes the block which `d` opens at `index`. -/
def closing (b : Block) (directives : List Directive) (d : Directive) (index : Nat) :
    Except RenderError Nat :=
  match b.close? directives index with
  | some close => .ok close
  | none => .error (.unterminatedBlock d.keyword d.line)

/-- What the opening of a loop says: the name it binds, the index of its closing
and its items. -/
def loopHeader (directives : List Directive) (d : Directive) (index : Nat) (context : Context) :
    Except RenderError (Option String × Nat × List Value) := do
  let name ← d.requiredArgument 0
  let binding? ← (d.argument? 1).mapM Variable.bindingName
  let close ← closing .loop directives d index
  let items ← Variable.readItems context name d.line
  return (binding?, close, items)

/-- Where a condition leads. -/
def conditionFlow (directives : List Directive) (d : Directive) (index : Nat)
    (context : Context) : Except RenderError Flow := do
  let name ← d.requiredArgument 0
  let close ← closing .condition directives d index
  let value ← Variable.read context name
  return if value.isTruthy then .next else .skipTo close

/-- The event of storing an element, if the loop binds one. -/
def boundEvents (layer origin : Nat) (value : Value) : Option String → List Event
  | some name => [⟨layer, .bound origin name value⟩]
  | none => []

/-- Opens the loop at the cursor, or skips it when there are no items. -/
def openLoop (layer : Nat) (directives : List Directive) (s : State) (d : Directive) : Dispatch :=
  match loopHeader directives d s.cursor s.context with
  | .error e => .fail s e
  | .ok (_, close, []) => ⟨.ok (.skipTo close), s, []⟩
  | .ok (binding?, _, first :: rest) =>
    let frame : Frame := ⟨s.cursor, d, binding?, first :: rest, 0⟩
    { flow := .ok .next
      state := { s.bind binding? first with loops := frame :: s.loops }
      events := boundEvents layer s.cursor first binding? ++
        [⟨layer, .opened s.cursor (first :: rest).length⟩] }

/-- Ends an iteration of the innermost loop: goes back to it with the next item,
or closes it after the last one. -/
def closeLoop (layer : Nat) (s : State) (d : Directive) : Dispatch :=
  match s.loops with
  | [] => .fail s (.unmatchedClose d.keyword d.line)
  | f :: outer =>
    match f.items[f.current + 1]? with
    | some item =>
      { flow := .ok (.rewind f.origin)
        state := { s.bind f.binding? item with
          loops := { f with current := f.current + 1 } :: outer }
        events := boundEvents layer f.origin item f.binding? ++ [⟨layer, .turned f.origin⟩] }
    | none =>
      { flow := .ok .next
        state := { s with loops := outer }
        events := [⟨layer, .closed f.origin⟩] }

/-- Takes over what the render of a component printed and stored.  What it
stored stays in the context also when it fails. -/
def takeOver (s : State) (r : Run) : Dispatch :=
  match r.result with
  | .ok text => ⟨.ok .next, { s.emit text with context := r.context }, r.events⟩
  | .error e => ⟨.error e, { s with context := r.context }, r.events⟩

/-- Renders a component in place. -/
def includeComponent (inclusion : Inclusion) (s : State) (d : Directive) : Dispatch :=
  match d.requiredArgument 0 with
  | .ok name => takeOver s (inclusion name s.context)
  | .error e => .fail s e

/-- Carries out the directive at the cursor. -/
def dispatch (inclusion : Inclusion) (layer : Nat) (directives : List Directive) (s : State)
    (d : Directive) : Dispatch :=
  match d.kind with
  | .component => includeComponent inclusion s d
  | .loop => if s.isReentry then ⟨.ok .next, s, []⟩ else openLoop layer directives s d
  | .endLoop => closeLoop layer s d
  | .condition =>
    match conditionFlow directives d s.cursor s.context with
    | .ok flow => ⟨.ok flow, s, []⟩
    | .error e => .fail s e
  | .endCondition => ⟨.ok .next, s, []⟩
  | .html => .print s (d.requiredArgument 0 >>= Variable.print s.context)
  | .variable => .print s ((Variable.print s.context d.keyword).map Text.escapeAngles)

/-- Takes one step to the text after the directive at an index. -/
def advance (t : Template) (s : State) (index : Nat) : State :=
  let literal := (t.pieces[index]?.map (·.literal)).getD []
  { s.emit (String.ofList literal) with cursor := index + 1, steps := s.steps + 1 }

/-- The state that a directive leads to. -/
def follow (t : Template) (s : State) : Flow → State
  | .next => advance t s s.cursor
  | .skipTo index => advance t s index
  | .rewind index => { s with cursor := index }

/-- The end of a render, past the last directive: a loop still open is an error. -/
def finish (s : State) : Run :=
  match s.loops with
  | [] => ⟨.ok s.output, s.context, []⟩
  | f :: _ => ⟨.error (.unterminatedBlock f.opener.keyword f.opener.line), s.context, []⟩

/-- What happens next in a render. -/
inductive Turn where
  /-- It goes on from another state. -/
  | go (s : State) (events : List Event)
  /-- It ends. -/
  | halt (r : Run)

/-- Carries out the directive at the cursor, unless the render is at its end. -/
def turn (inclusion : Inclusion) (layer : Nat) (t : Template) (s : State) : Turn :=
  match t.pieces[s.cursor]? with
  | none => .halt (finish s)
  | some piece =>
    if maxSteps < s.steps then .halt ⟨.error (.stepLimitExceeded maxSteps), s.context, []⟩
    else
      let d := piece.directive
      let reached : Event := ⟨layer, .reached s.cursor d.kind d.line⟩
      let r := dispatch inclusion layer t.directives s d
      match r.flow with
      | .ok flow => .go (follow t r.state flow) (reached :: r.events)
      | .error e => .halt ⟨.error e, r.state.context, reached :: r.events⟩

/-- Goes through a template from a state, for a number of turns. -/
def runFor (inclusion : Inclusion) (layer : Nat) (t : Template) : (turns : Nat) → State → Run
  | 0, s => ⟨.error (.stepLimitExceeded maxSteps), s.context, []⟩
  | turns + 1, s =>
    match turn inclusion layer t s with
    | .halt r => r
    | .go s' events => (runFor inclusion layer t turns s').after events

/-- The state in which a template is begun. -/
def start (t : Template) (context : Context) : State :=
  ⟨0, 0, [], String.ofList t.lead, context⟩

/-- Renders a template.  One without directives is its own text, and nothing is
said about it. -/
def run (inclusion : Inclusion) (layer : Nat) (t : Template) (context : Context) : Run :=
  match t.pieces with
  | [] => ⟨.ok (String.ofList t.lead), context, []⟩
  | _ :: _ =>
    (runFor inclusion layer t maxTurns (start t context)).after
      [⟨layer, .began t.pieces.length⟩]

end Machine

end BracketTemplate
