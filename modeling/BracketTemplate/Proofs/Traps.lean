/-
# A render goes through without a trap

A render cuts literal texts out between directives, goes to directives by their
index, takes the items of a loop by theirs and counts blocks up and down.  The
places come from several sides: spans from the scan, targets of skips from the
search for a closing, targets of returns and origins from the open loops.  Here the
render checks each of them when it is used, on the text and the list of its
directives, and would stop at one that is wrong (`Guarded.renderAt`).  It comes to
what `Render.renderAt` comes to, and stops in one case only: a text that begins more
blocks of one kind than the search for a closing can count
(`run_of_conditions`).

| used | why it is there |
| --- | --- |
| the text between two directives | directives are laid out in order (`exists_of_getElem?_laidFrom`) |
| the cursor | a turn is taken only in front of a directive |
| the target of a skip | the search finds a directive of the list |
| the target of a return, an origin | an open loop belongs to a loop directive (`Sound.opener`) |
| the next item | an open loop stands at one of its items (`Sound.current_lt`) |
| one block less to wait for | the closing met at `0` ends the search |
| one block more to wait for | there are at most `maxCount` behind the one that begins |
| one layer more | a layer is below the largest number |
-/

import BracketTemplate.Proofs.BlockCounter
import BracketTemplate.Proofs.ByteScanner
import BracketTemplate.Proofs.Layers
import BracketTemplate.Proofs.Mentions

namespace BracketTemplate

namespace Template

/-- The literal text of a piece stands in the text between its directive and the
next one, or the end. -/
theorem exists_of_getElem?_laidFrom {offset line : Nat} {lead : List Char} {ps : List Piece}
    (h : LaidFrom offset line lead ps) {i : Nat} {p : Piece} (hp : ps[i]? = some p) :
    ∃ pre post, lead ++ piecesText ps = pre ++ (p.literal ++ post) ∧
      p.directive.stop = offset + byteLength pre ∧
      (ps[i + 1]?).elim (post = []) fun next =>
        next.directive.start = p.directive.stop + byteLength p.literal := by
  induction ps generalizing offset line lead i with
  | nil => cases hp
  | cons q rest ih =>
    obtain ⟨hbody, hq, hrest⟩ := h
    have hsize : byteLength (Directive.spelling q.directive.body) =
      (Directive.spelling q.directive.body).length := (Directive.byteLength_spelling hbody).1
    have hstop : q.directive.stop =
        offset + byteLength (lead ++ Directive.spelling q.directive.body) := by
      rw [byteLength_append, hsize, ← Nat.add_assoc]
      exact congrArg Directive.stop hq
    cases i with
    | zero =>
      cases hp
      refine ⟨lead ++ Directive.spelling p.directive.body, piecesText rest, ?_, hstop, ?_⟩
      · rw [piecesText_cons, List.append_assoc]
      · cases rest with
        | nil => rfl
        | cons next rest => exact congrArg Directive.start hrest.2.1
    | succ i =>
      obtain ⟨pre, post, htext, hpstop, hnext⟩ := ih hrest hp
      refine ⟨lead ++ Directive.spelling q.directive.body ++ pre, post, ?_, ?_, hnext⟩
      · rw [piecesText_cons, htext]
        simp only [List.append_assoc]
      · rw [hpstop, hstop, byteLength_append _ pre, Nat.add_assoc]

end Template

namespace Guarded

open Machine (Turn Move Sound)
open Render (Drawn)

/-! ## The render with its checks -/

/-- How a component is rendered. -/
abbrev GuardedInclusion : Type := String → Context → Guarded Run

/-- What the opening of a loop says. -/
def loopHeader (directives : List Directive) (d : Directive) (start : Nat) (context : Context) :
    Attempt (Option String × Nat × List Value) := do
  let name ← sure (d.requiredArgument 0)
  let binding? ← sure ((d.argument? 1).mapM Variable.bindingName)
  let close ← matchingClose .loop directives start
  let items ← sure (Variable.readItems context name d.line)
  return (binding?, close, items)

/-- Where a condition leads. -/
def conditionFlow (directives : List Directive) (d : Directive) (start : Nat) (context : Context) :
    Attempt Flow := do
  let name ← sure (d.requiredArgument 0)
  let close ← matchingClose .condition directives start
  let value ← sure (Variable.read context name)
  return if value.isTruthy then .next else .skipTo close

/-- Puts a loop over at least one item on the others. -/
def push (f : Frame) (loops : List Frame) : Guarded (List Frame) :=
  if f.items = [] then .error .noItems else .ok (f :: loops)

/-- Opens the loop at the cursor, or skips it when there are no items. -/
def openLoop (layer : Nat) (directives : List Directive) (s : State) : Guarded Dispatch := do
  let d ← index directives s.cursor
  match ← (loopHeader directives d s.cursor s.context).run with
  | .error e => return .fail s e
  | .ok (_, close, []) => return ⟨.ok (.skipTo close), s, []⟩
  | .ok (binding?, _, first :: rest) =>
    let loops ← push ⟨s.cursor, d, binding?, first :: rest, 0⟩ s.loops
    return {
      flow := .ok .next
      state := { s.bind binding? first with loops := loops }
      events := Machine.boundEvents layer s.cursor first binding? ++
        [⟨layer, .opened s.cursor (first :: rest).length⟩] }

/-- Ends an iteration of the innermost loop.  An item is looked up only to be bound. -/
def closeLoop (layer : Nat) (s : State) (d : Directive) : Guarded Dispatch :=
  match s.loops with
  | [] => .ok (.fail s (.unmatchedClose d.keyword d.line))
  | f :: outer =>
    let next : Frame := { f with current := f.current + 1 }
    if next.current = f.items.length then
      .ok ⟨.ok .next, { s with loops := outer }, [⟨layer, .closed f.origin⟩]⟩
    else
      match f.binding? with
      | none =>
        .ok ⟨.ok (.rewind f.origin), { s with loops := next :: outer }, [⟨layer, .turned f.origin⟩]⟩
      | some name => do
        let item ← index f.items next.current
        return {
          flow := .ok (.rewind f.origin)
          state := { s.bind (some name) item with loops := next :: outer }
          events := Machine.boundEvents layer f.origin item (some name) ++
            [⟨layer, .turned f.origin⟩] }

/-- Carries out the directive at the cursor. -/
def dispatch (inclusion : GuardedInclusion) (layer : Nat) (directives : List Directive)
    (s : State) : Guarded Dispatch := do
  let d ← index directives s.cursor
  match d.kind with
  | .component =>
    match d.requiredArgument 0 with
    | .ok name => return Machine.takeOver s (← inclusion name s.context)
    | .error e => return .fail s e
  | .loop => if s.isReentry then return ⟨.ok .next, s, []⟩ else openLoop layer directives s
  | .endLoop => closeLoop layer s d
  | .condition =>
    match ← (conditionFlow directives d s.cursor s.context).run with
    | .ok flow => return ⟨.ok flow, s, []⟩
    | .error e => return .fail s e
  | .endCondition => return ⟨.ok .next, s, []⟩
  | .html => return .print s (d.requiredArgument 0 >>= Variable.print s.context)
  | .variable => return .print s ((Variable.print s.context d.keyword).map Text.escapeAngles)

/-- The text behind the directive at an index, up to the next one. -/
def literal (text : List Char) (directives : List Directive) (i : Nat) : Guarded (List Char) := do
  let d ← index directives i
  slice text d.stop ((directives[i + 1]?).elim (byteLength text) Directive.start)

/-- Takes one step to the text behind the directive at an index. -/
def advance (text : List Char) (directives : List Directive) (s : State) (i : Nat) :
    Guarded State := do
  let part ← literal text directives i
  return { s.emit (String.ofList part) with cursor := i + 1, steps := s.steps + 1 }

/-- The state that a directive leads to. -/
def follow (text : List Char) (directives : List Directive) (s : State) : Flow → Guarded State
  | .next => advance text directives s s.cursor
  | .skipTo i => advance text directives s i
  | .rewind i => do
    let _ ← index directives i
    return { s with cursor := i }

/-- The end of a render, past the last directive. -/
def finish (directives : List Directive) (s : State) : Guarded Run :=
  match s.loops with
  | [] => .ok ⟨.ok s.output, s.context, []⟩
  | f :: _ => do
    let opener ← index directives f.origin
    return ⟨.error (.unterminatedBlock opener.keyword opener.line), s.context, []⟩

/-- Carries out the directive at the cursor, unless the render is at its end. -/
def turn (inclusion : GuardedInclusion) (layer : Nat) (text : List Char)
    (directives : List Directive) (s : State) : Guarded Turn :=
  if s.cursor < directives.length then
    if Machine.maxSteps < s.steps then
      .ok (.halt ⟨.error (.stepLimitExceeded Machine.maxSteps), s.context, []⟩)
    else do
      let d ← index directives s.cursor
      let reached : Event := ⟨layer, .reached s.cursor d.kind d.line⟩
      let r ← dispatch inclusion layer directives s
      match r.flow with
      | .ok flow => return .go (← follow text directives r.state flow) (reached :: r.events)
      | .error e => return .halt ⟨.error e, r.state.context, reached :: r.events⟩
  else do return .halt (← finish directives s)

/-- Goes through a text from a state, for a number of turns that have to do. -/
def runFor (inclusion : GuardedInclusion) (layer : Nat) (text : List Char)
    (directives : List Directive) : (turns : Nat) → State → Guarded Run
  | 0, _ => .error .outOfRounds
  | turns + 1, s => do
    match ← turn inclusion layer text directives s with
    | .halt r => return r
    | .go s' events => return (← runFor inclusion layer text directives turns s').after events

/-- Renders a text. -/
def run (inclusion : GuardedInclusion) (layer : Nat) (text : String) (context : Context) :
    Guarded Run := do
  match ← scan text.toList with
  | [] => return ⟨.ok text, context, []⟩
  | first :: rest =>
    let lead ← slice text.toList 0 first.start
    let r ← runFor inclusion layer text.toList (first :: rest) Machine.maxTurns
      ⟨0, 0, [], String.ofList lead, context⟩
    return r.after [⟨layer, .began (first :: rest).length⟩]

/-- Renders a component one layer deeper, unless that is too deep. -/
def component (settings : Settings) (loader : Loader) (layer : Nat)
    (render : Nat → String → Context → Guarded Run) : GuardedInclusion := fun name context => do
  let deeper ← succ maxWord layer
  if Render.maxLayer < deeper then
    return ⟨.error (.excessiveRecursion name deeper Render.maxLayer), context, []⟩
  else
    let path := settings.componentPath name
    let included : Event := ⟨layer, .included name path⟩
    let loaded : Event := ⟨layer, .loaded path⟩
    match loader path with
    | .ok source => return ((← render deeper source context).after [loaded]).after [included]
    | .error e => return Run.after [included] ⟨.error e, context, [loaded]⟩

/-- Renders a text at a layer, with components at most `depth` layers deeper. -/
def renderToDepth (settings : Settings) (loader : Loader) :
    (depth layer : Nat) → String → Context → Guarded Run
  | 0, layer, text, context =>
    run (component settings loader layer fun _ _ _ => .error .outOfRounds) layer text context
  | depth + 1, layer, text, context =>
    run (component settings loader layer (renderToDepth settings loader depth)) layer text context

/-- Renders a text at a layer. -/
def renderAt (settings : Settings) (loader : Loader) (layer : Nat) (text : String)
    (context : Context) : Guarded Run :=
  renderToDepth settings loader (Render.maxLayer - layer) layer text context

/-! ## What a directive does -/

theorem sure_bind {α β : Type} (x : Except RenderError α) (f : α → Except RenderError β) :
    (sure x >>= fun a => sure (f a)) = sure (x >>= f) := by
  cases x <;> rfl

section Dispatching

variable {directives : List Directive} {s : State} {d : Directive}

/-- The openings behind the beginning of a block can be counted if those of the whole
list are at most one more. -/
theorem matchingClose_eq_of_opener (b : Block) (hcount : b.opens directives ≤ maxCount + 1)
    (h : directives[s.cursor]? = some d) (hkind : d.kind = b.opener) :
    matchingClose b directives s.cursor = sure (Machine.closing b directives d s.cursor) := by
  have hlt := b.opens_drop_lt h hkind
  exact matchingClose_eq b h (by omega)

theorem loopHeader_eq (hcount : Block.loop.opens directives ≤ maxCount + 1)
    (h : directives[s.cursor]? = some d) (hkind : d.kind = .loop) :
    loopHeader directives d s.cursor s.context =
      sure (Machine.loopHeader directives d s.cursor s.context) := by
  rw [loopHeader, matchingClose_eq_of_opener .loop hcount h hkind, Machine.loopHeader]
  simp only [← sure_bind]
  rfl

theorem conditionFlow_eq (hcount : Block.condition.opens directives ≤ maxCount + 1)
    (h : directives[s.cursor]? = some d) (hkind : d.kind = .condition) :
    conditionFlow directives d s.cursor s.context =
      sure (Machine.conditionFlow directives d s.cursor s.context) := by
  rw [conditionFlow, matchingClose_eq_of_opener .condition hcount h hkind, Machine.conditionFlow]
  simp only [← sure_bind]
  rfl

theorem openLoop_eq (layer : Nat) (hcount : Block.loop.opens directives ≤ maxCount + 1)
    (h : directives[s.cursor]? = some d) (hkind : d.kind = .loop) :
    openLoop layer directives s = .ok (Machine.openLoop layer directives s d) := by
  have hindex : index directives s.cursor = .ok d := index_eq_ok_iff.2 h
  rw [openLoop, hindex, Machine.openLoop]
  simp only [bind, Except.bind, loopHeader_eq hcount h hkind]
  change (match Machine.loopHeader directives d s.cursor s.context with
    | .error e => _
    | .ok (_, close, []) => _
    | .ok (binding?, _, first :: rest) => _) = _
  rcases Machine.loopHeader directives d s.cursor s.context with
    e | ⟨binding?, close, _ | ⟨first, rest⟩⟩
  · rfl
  · rfl
  · rfl

/-- **The item that a loop is bound to is there**, because the loop stands at one
of its items and has another one left. -/
theorem closeLoop_eq (layer : Nat) (hcurrent : ∀ f ∈ s.loops, f.current < f.items.length) :
    closeLoop layer s d = .ok (Machine.closeLoop layer s d) := by
  rw [closeLoop, Machine.closeLoop]
  cases hloops : s.loops with
  | nil => rfl
  | cons f outer =>
    have hlt : f.current < f.items.length := hcurrent f (by rw [hloops]; exact List.mem_cons_self)
    simp only
    by_cases hlast : f.current + 1 = f.items.length
    · have hnone : f.items[f.current + 1]? = none := List.getElem?_eq_none (by omega)
      rw [if_pos hlast, hnone]
    · obtain ⟨item, hitem⟩ : ∃ item, f.items[f.current + 1]? = some item :=
        ⟨_, List.getElem?_eq_getElem (by omega)⟩
      have hindex : index f.items (f.current + 1) = .ok item := index_eq_ok_iff.2 hitem
      rw [if_neg hlast, hitem]
      cases hbinding : f.binding? with
      | none => rfl
      | some name =>
        simp only [hindex, bind, Except.bind]
        rfl

theorem dispatch_eq {inclusion : Inclusion} {inclusion' : GuardedInclusion}
    (hinclusion : ∀ name, d.component? = some name → ∀ context,
      inclusion' name context = .ok (inclusion name context))
    (hcount : ∀ b : Block, b.opens directives ≤ maxCount + 1)
    (layer : Nat) (h : directives[s.cursor]? = some d)
    (hcurrent : ∀ f ∈ s.loops, f.current < f.items.length) :
    dispatch inclusion' layer directives s =
      .ok (Machine.dispatch inclusion layer directives s d) := by
  have hindex : index directives s.cursor = .ok d := index_eq_ok_iff.2 h
  rw [dispatch, hindex, Machine.dispatch]
  simp only [bind, Except.bind]
  cases hkind : d.kind with
  | component =>
    simp only [Machine.includeComponent]
    cases hname : d.requiredArgument 0 with
    | error e => rfl
    | ok name =>
      have hcomponent : d.component? = some name := by
        rw [Directive.component?_of_component hkind]
        exact Directive.requiredArgument_eq_ok.1 hname
      simp only [hinclusion name hcomponent]
      rfl
  | loop =>
    simp only
    rw [openLoop_eq layer (hcount .loop) h hkind]
    split <;> rfl
  | endLoop => exact closeLoop_eq layer hcurrent
  | condition =>
    simp only [conditionFlow_eq (hcount .condition) h hkind]
    cases Machine.conditionFlow directives d s.cursor s.context <;> rfl
  | endCondition => rfl
  | html => rfl
  | «variable» => rfl

end Dispatching

/-! ## The text between two directives -/

section Text

variable {t : Template} {text : String}

theorem getElem?_directives (t : Template) (i : Nat) :
    t.directives[i]? = (t.pieces[i]?).map (·.directive) :=
  List.getElem?_map

theorem index_directives {i : Nat} {p : Piece} (h : t.pieces[i]? = some p) :
    index t.directives i = .ok p.directive := by
  rw [index_eq_ok_iff, getElem?_directives, h]
  rfl

/-- **The text between two directives can be cut out.** -/
theorem literal_eq {i : Nat} {p : Piece} (h : (Template.ofText text).pieces[i]? = some p) :
    literal text.toList (Template.ofText text).directives i = .ok p.literal := by
  obtain ⟨pre, post, htext, hstop, hnext⟩ :=
    Template.exists_of_getElem?_laidFrom (Template.laid_ofText text) h
  have htext : text.toList = pre ++ (p.literal ++ post) := by
    rw [← Template.text_ofText]
    exact htext
  rw [Nat.zero_add] at hstop
  simp only [literal, index_directives h, bind, Except.bind]
  refine slice_eq_ok_iff.2 ⟨pre, post, htext, hstop.symm, ?_⟩
  rw [getElem?_directives]
  cases hi : (Template.ofText text).pieces[i + 1]? with
  | none =>
    rw [hi] at hnext
    obtain rfl : post = [] := hnext
    rw [hstop, htext, List.append_nil]
    exact (byteLength_append ..).symm
  | some next =>
    rw [hi] at hnext
    exact hnext.symm

/-- So can the text in front of the first one. -/
theorem slice_lead_eq {p : Piece} {rest : List Piece}
    (h : (Template.ofText text).pieces = p :: rest) :
    slice text.toList 0 p.directive.start = .ok (Template.ofText text).lead := by
  have hlaid := Template.laid_ofText text
  rw [h] at hlaid
  exact slice_eq_ok_iff.2
    ⟨[], _, (Template.text_ofText text).symm, rfl, (congrArg Directive.start hlaid.2.1).symm⟩

theorem advance_eq (s : State) {i : Nat} {p : Piece}
    (h : (Template.ofText text).pieces[i]? = some p) :
    advance text.toList (Template.ofText text).directives s i =
      .ok (Machine.advance (Template.ofText text) s i) := by
  rw [advance, literal_eq h, Machine.advance, h]
  rfl

end Text

/-! ## Turns -/

/-- The index that a flow leads to, of a directive that it goes on from or to. -/
def target (s : State) : Flow → Nat
  | .next => s.cursor
  | .skipTo i => i
  | .rewind i => i

section Turns

variable {inclusion : Inclusion} {inclusion' : GuardedInclusion} {layer : Nat} {t : Template}
  {text : String} {s : State}

theorem follow_eq {flow : Flow} {p : Piece}
    (h : (Template.ofText text).pieces[target s flow]? = some p) :
    follow text.toList (Template.ofText text).directives s flow =
      .ok (Machine.follow (Template.ofText text) s flow) := by
  cases flow with
  | next => exact advance_eq s h
  | skipTo i => exact advance_eq s h
  | rewind i =>
    rw [follow, index_directives (i := i) h]
    rfl

/-- A move that is no step goes back to a loop that is there. -/
theorem exists_piece_of_move {d : Directive} {s' : State} (hs : Sound t s)
    (hmove : Move inclusion t d s s') (hsteps : s'.steps = s.steps) :
    ∃ q, t.pieces[s'.cursor]? = some q := by
  cases hmove with
  | pass text context _ _ _ => exact absurd hsteps (Nat.succ_ne_self _)
  | skip b k _ _ => exact absurd hsteps (Nat.succ_ne_self _)
  | enter binding? k first rest _ _ _ =>
    rw [Machine.advance_steps, State.bind_steps] at hsteps
    exact absurd hsteps (Nat.succ_ne_self _)
  | leave f outer _ _ _ => exact absurd hsteps (Nat.succ_ne_self _)
  | turnBack f outer item _ hloops _ =>
    obtain ⟨q, hq, -⟩ := hs.opener f (by rw [hloops]; exact List.mem_cons_self)
    exact ⟨q, hq⟩

/-- **Where a directive leads there is a directive.** -/
theorem exists_target (hs : Sound t s) {p : Piece} {flow : Flow}
    (hp : t.pieces[s.cursor]? = some p)
    (h : (Machine.dispatch inclusion layer t.directives s p.directive).flow = .ok flow) :
    ∃ q, t.pieces[
      target (Machine.dispatch inclusion layer t.directives s p.directive).state flow]? =
        some q := by
  obtain ⟨hcursor, hsteps⟩ := Machine.dispatch_place inclusion layer t.directives s p.directive
  have hmove := Machine.move_of_dispatch h
  cases flow with
  | next => exact ⟨p, by rw [target, hcursor, hp]⟩
  | skipTo k =>
    have hle : k + 1 ≤ t.pieces.length := (hs.move hp hmove).cursor_le
    exact ⟨_, List.getElem?_eq_getElem hle⟩
  | rewind i => exact exists_piece_of_move hs hmove hsteps

theorem finish_eq (hs : Sound t s) : finish t.directives s = .ok (Machine.finish s) := by
  rw [finish, Machine.finish]
  cases hloops : s.loops with
  | nil => rfl
  | cons f outer =>
    obtain ⟨p, hp, -, hopener⟩ := hs.opener f (by rw [hloops]; exact List.mem_cons_self)
    simp only [index_directives hp, hopener, bind, Except.bind]
    rfl

variable (hinclusion : ∀ d ∈ Directive.scan text, ∀ name, d.component? = some name →
    ∀ context, inclusion' name context = .ok (inclusion name context))
  (hcount : ∀ b : Block, b.opens (Directive.scan text) ≤ maxCount + 1)

include hinclusion hcount

/-- **A turn stops nowhere.** -/
theorem turn_eq (hs : Sound (Template.ofText text) s) :
    turn inclusion' layer text.toList (Template.ofText text).directives s =
      .ok (Machine.turn inclusion layer (Template.ofText text) s) := by
  have hlength : (Template.ofText text).directives.length = (Template.ofText text).pieces.length :=
    Template.length_directives _
  rw [turn, Machine.turn, hlength]
  cases hp : (Template.ofText text).pieces[s.cursor]? with
  | none =>
    rw [if_neg (Nat.not_lt.2 (List.getElem?_eq_none_iff.1 hp)), finish_eq hs]
    rfl
  | some p =>
    have hd : (Template.ofText text).directives[s.cursor]? = some p.directive := by
      rw [getElem?_directives, hp]
      rfl
    rw [if_pos (List.getElem?_eq_some_iff.1 hp).1]
    dsimp only
    split
    · rfl
    have hdispatch : dispatch inclusion' layer (Template.ofText text).directives s =
        .ok (Machine.dispatch inclusion layer (Template.ofText text).directives s p.directive) :=
      dispatch_eq (hinclusion _ (List.mem_of_getElem? hd)) hcount layer hd hs.current_lt
    simp only [index_directives hp, hdispatch, bind, Except.bind]
    cases hflow :
        (Machine.dispatch inclusion layer (Template.ofText text).directives s p.directive).flow with
    | error e => rfl
    | ok flow =>
      obtain ⟨q, hq⟩ := exists_target hs hp hflow
      simp only [follow_eq hq]
      rfl

/-- **As many turns as are left do**, and no turn stops. -/
theorem runFor_eq (layer : Nat) {turns : Nat} (hs : Sound (Template.ofText text) s)
    (h : Machine.turnsLeft s ≤ turns) :
    runFor inclusion' layer text.toList (Template.ofText text).directives turns s =
      .ok (Machine.runFor inclusion layer (Template.ofText text) turns s) := by
  induction turns generalizing s with
  | zero =>
    have := Machine.turnsLeft_pos s
    omega
  | succ turns ih =>
    rw [runFor, turn_eq hinclusion hcount hs, Machine.runFor]
    cases hturn : Machine.turn inclusion layer (Template.ofText text) s with
    | halt r => rfl
    | go s' events =>
      obtain ⟨p, hp, hsteps, hmove⟩ := Machine.move_of_turn hturn
      have hlt := Machine.turnsLeft_lt_of_move hs hp hsteps hmove
      simp only [ih (hs.move hp hmove) (by omega), bind, Except.bind]
      rfl

theorem run_eq (context : Context) :
    run inclusion' layer text context =
      .ok (Machine.run inclusion layer (Template.ofText text) context) := by
  have htext := Template.text_ofText text
  have hscan : Directive.scan text = (Template.ofText text).pieces.map (·.directive) := rfl
  rw [run, scan_eq, hscan, Machine.run]
  cases hpieces : (Template.ofText text).pieces with
  | nil =>
    rw [Template.text, hpieces, Template.piecesText_nil, List.append_nil] at htext
    rw [htext, String.ofList_toList]
    rfl
  | cons p rest =>
    have hlead := slice_lead_eq hpieces
    have hrun := runFor_eq hinclusion hcount layer
      (Machine.sound_start (Template.ofText text) context) (Nat.le_refl Machine.maxTurns)
    rw [Template.directives, hpieces] at hrun
    simp only [List.map_cons, hlead, bind, Except.bind] at hrun ⊢
    rw [← Machine.start, hrun]
    simp only [List.length_cons, List.length_map]
    rfl

end Turns

/-! ## Layers -/

/-- **No layer is above the largest number**, because components are refused long
before. -/
theorem renderToDepth_eq (settings : Settings) (loader : Loader) {depth layer : Nat}
    (hdepth : depth = Render.maxLayer - layer) (hlayer : layer < maxWord) (text : String)
    (hcount : ∀ source, Drawn settings loader text source →
      ∀ b : Block, b.opens (Directive.scan source) ≤ maxCount + 1)
    (context : Context) :
    renderToDepth settings loader depth layer text context =
      .ok (Render.renderToDepth settings loader depth layer text context) := by
  have hword : Render.maxLayer + 1 < maxWord := by decide
  induction depth generalizing layer text context with
  | zero =>
    refine run_eq (fun d hd name hname context => ?_) (hcount text .self) context
    simp only [component, succ_eq_ok hlayer, bind, Except.bind]
    rw [if_pos (by omega)]
    rfl
  | succ depth ih =>
    refine run_eq (fun d hd name hname context => ?_) (hcount text .self) context
    simp only [component, succ_eq_ok hlayer, bind, Except.bind]
    rw [if_neg (by omega), Render.loadThen]
    cases hload : loader (settings.componentPath name) with
    | error e => rfl
    | ok source =>
      have hnext : layer + 1 < maxWord := by omega
      have hsource := ih (by omega) hnext source
        (fun source' hdrawn => hcount source' (.of_component hd hname hload hdrawn)) context
      simp only [hsource]
      rfl

/-- **Rendering never stops at a trap.**  For every text, context and loader and
every layer below the largest number, if no text that is drawn on begins more than
2³¹ blocks of one kind, the scan and the render that check each slice, index and
counter before they use it go through to the end, and come to what they come to
without the checks. -/
theorem renderAt_eq_ok {layer : Nat} (hlayer : layer < maxWord) (settings : Settings)
    (loader : Loader) (text : String)
    (hcount : ∀ source, Drawn settings loader text source →
      ∀ b : Block, b.opens (Directive.scan source) ≤ 2 ^ 31)
    (context : Context) :
    scan text.toList = .ok (Directive.scan text) ∧
      renderAt settings loader layer text context =
        .ok (Render.renderAt settings loader layer text context) :=
  ⟨scan_eq text, renderToDepth_eq settings loader rfl hlayer text hcount context⟩

/-- Characters of several bytes next to brackets, a component and a loop that is gone
back to. -/
theorem renderAt_eq_ok_multibyte :
    3 < maxWord ∧
    (∀ source, Drawn {} (.ofSources [("components/c.html", "→[[ x ]]")])
        "é[[ [[ for:xs:x ]]ü[[ component:c ]][[ endfor ]]]]" source →
      ∀ b : Block, b.opens (Directive.scan source) ≤ 2 ^ 31) ∧
    (renderAt {} (.ofSources [("components/c.html", "→[[ x ]]")]) 3
      "é[[ [[ for:xs:x ]]ü[[ component:c ]][[ endfor ]]]]"
      ⟨[("xs", .sequence [.integer 1, .integer 2])]⟩).map Run.result =
        .ok (.ok "é[[ ü→1ü→2]]") := by
  have hcount : ∀ source, Drawn {} (.ofSources [("components/c.html", "→[[ x ]]")])
      "é[[ [[ for:xs:x ]]ü[[ component:c ]][[ endfor ]]]]" source →
      ∀ b : Block, b.opens (Directive.scan source) ≤ 2 ^ 31 := by
    intro source hdrawn b
    rcases hdrawn.eq_or_exists with rfl | ⟨path, hload⟩
    · cases b <;> decide +kernel
    · obtain rfl : source = "→[[ x ]]" := by
        unfold Loader.ofSources Entries.find? at hload
        split at hload
        · rename_i source' hfind
          split at hfind
          · rw [← Except.ok.inj hload, ← Option.some.inj hfind]
          · cases hfind
        · cases hload
      cases b <;> decide +kernel
  refine ⟨by decide, hcount, ?_⟩
  rw [(renderAt_eq_ok (by decide) {} _ _ hcount _).2]
  cbv

/-! ## More than can be counted -/

/-- The pieces of directives written one after the other on the first line. -/
def rowFrom (body : List Char) : (offset n : Nat) → List Piece
  | _, 0 => []
  | offset, n + 1 =>
    ⟨.ofBody body offset 1, []⟩ :: rowFrom body (offset + (Directive.spelling body).length) n

theorem length_rowFrom (body : List Char) (offset n : Nat) :
    (rowFrom body offset n).length = n := by
  induction n generalizing offset with
  | zero => rfl
  | succ n ih => rw [rowFrom, List.length_cons, ih]

theorem exists_of_mem_rowFrom {body : List Char} {offset n : Nat} {p : Piece}
    (h : p ∈ rowFrom body offset n) : ∃ start, p = ⟨.ofBody body start 1, []⟩ := by
  induction n generalizing offset with
  | zero => exact absurd h List.not_mem_nil
  | succ n ih =>
    rcases List.mem_cons.1 h with rfl | h
    · exact ⟨offset, rfl⟩
    · exact ih h

/-- The template of a directive that is written over and over. -/
theorem ofText_replicate {body : List Char} (h : Directive.IsBody body) (n : Nat) :
    Template.ofText (String.ofList (List.replicate n (Directive.spelling body)).flatten) =
      ⟨[], rowFrom body 0 n⟩ := by
  have hlaid (offset n : Nat) : Template.LaidFrom offset 1 [] (rowFrom body offset n) := by
    induction n generalizing offset with
    | zero => trivial
    | succ n ih =>
      refine ⟨by rwa [Directive.body_ofBody], by rw [Directive.body_ofBody]; rfl, ?_⟩
      exact ih _
  have htext (offset n : Nat) : Template.piecesText (rowFrom body offset n) =
      (List.replicate n (Directive.spelling body)).flatten := by
    induction n generalizing offset with
    | zero => rfl
    | succ n ih =>
      rw [rowFrom, Template.piecesText_cons, Directive.body_ofBody, ih, List.replicate_succ,
        List.flatten_cons, List.nil_append]
  refine (Template.eq_ofText_of_clear (hlaid 0 n) ⟨Directive.absent_nil, fun p hp => ?_⟩ ?_).symm
  · obtain ⟨start, rfl⟩ := exists_of_mem_rowFrom hp
    exact Directive.absent_nil
  · rw [String.toList_ofList]
    exact htext 0 n

section Conditions

variable {d : Directive} {rest : List Directive} {name : String}
  (hname : d.requiredArgument 0 = .ok name)
  (hkinds : ∀ d' ∈ d :: rest, d'.kind = .condition) (hmany : maxCount < rest.length)

include hname hkinds hmany

/-- The end of a condition cannot be searched for behind too many others. -/
theorem dispatch_of_conditions (inclusion : GuardedInclusion) (layer : Nat) {s : State}
    (hs : s.cursor = 0) : dispatch inclusion layer (d :: rest) s = .error .aboveMax := by
  have hindex : index (d :: rest) 0 = .ok d := rfl
  have hkind : d.kind = .condition := hkinds d List.mem_cons_self
  have hclosing : matchingClose .condition (d :: rest) 0 = stopped .aboveMax :=
    matchingClose_of_openers .condition hkinds (Nat.succ_lt_succ hmany)
  have hflow : (conditionFlow (d :: rest) d 0 s.context).run = .error .aboveMax := by
    rw [conditionFlow, hname, hclosing]
    rfl
  simp only [dispatch, hs, hindex, bind, Except.bind, hkind, hflow]

theorem turn_of_conditions (inclusion : GuardedInclusion) (layer : Nat) (text : List Char)
    {s : State} (hs : s.cursor = 0) (hsteps : s.steps = 0) :
    turn inclusion layer text (d :: rest) s = .error .aboveMax := by
  have hindex : index (d :: rest) 0 = .ok d := rfl
  have hdispatch := dispatch_of_conditions hname hkinds hmany inclusion layer hs
  have hlength : 0 < (d :: rest).length := Nat.zero_lt_succ _
  rw [turn, hs, hsteps, if_pos hlength, if_neg (Nat.not_lt_zero _)]
  simp only [hindex, hdispatch, bind, Except.bind]

/-- **A text that begins too many conditions stops the render** at the first of them. -/
theorem run_of_conditions (inclusion : GuardedInclusion) (layer : Nat) {text : String}
    (hscan : Directive.scan text = d :: rest) (context : Context) :
    run inclusion layer text context = .error .aboveMax := by
  obtain ⟨p, ps, hpieces, rfl, -⟩ := List.map_eq_cons_iff.1 hscan
  have hturns : Machine.maxTurns = (Machine.maxTurns - 1) + 1 := by decide
  have hturn (lead : String) : turn inclusion layer text.toList (p.directive :: rest)
      ⟨0, 0, [], lead, context⟩ = .error .aboveMax :=
    turn_of_conditions hname hkinds hmany inclusion layer _ rfl rfl
  rw [run, scan_eq, hscan]
  simp only [slice_lead_eq hpieces, bind, Except.bind]
  rw [hturns, runFor]
  simp only [hturn, bind, Except.bind]

end Conditions

/-- The body of the directive `[[ if:x ]]`. -/
def ifBody : List Char := ['i', 'f', ':', 'x']

theorem renderAt_of_ifs (settings : Settings) (loader : Loader) (layer : Nat) (context : Context)
    {n : Nat} (h : maxCount < n) :
    renderAt settings loader layer
      (String.ofList (List.replicate (n + 1) (Directive.spelling ifBody)).flatten) context =
        .error .aboveMax := by
  have hbody : Directive.IsBody ifBody := ⟨by decide, List.all_eq_true.1 (by decide +kernel)⟩
  have hname : (Directive.ofBody ifBody 0 1).requiredArgument 0 = .ok "x" := by decide +kernel
  have hkind : (Directive.ofBody ifBody 0 1).kind = .condition := by decide +kernel
  have hkinds : ∀ d ∈ (rowFrom ifBody 0 (n + 1)).map (·.directive), d.kind = .condition := by
    intro d hd
    obtain ⟨p, hp, rfl⟩ := List.mem_map.1 hd
    -- the kind does not depend on where the directive starts
    obtain ⟨start, rfl⟩ := exists_of_mem_rowFrom hp
    exact hkind
  have hmany (offset : Nat) :
      maxCount < ((rowFrom ifBody offset n).map (·.directive)).length := by
    rwa [List.length_map, length_rowFrom]
  have hscan : Directive.scan
      (String.ofList (List.replicate (n + 1) (Directive.spelling ifBody)).flatten) =
        (rowFrom ifBody 0 (n + 1)).map (·.directive) := by
    rw [Directive.scan, ofText_replicate hbody]
    rfl
  have hrun := fun inclusion =>
    run_of_conditions hname hkinds (hmany _) inclusion layer hscan context
  unfold renderAt renderToDepth
  split <;> exact hrun _

/-- A text of 2³¹ + 1 conditions: behind the first there is one too many to count. -/
theorem renderAt_stops_at_conditions :
    0 < maxWord ∧
    renderAt {} (.ofSources []) 0
      (String.ofList (List.replicate (2 ^ 31 + 1) (Directive.spelling ifBody)).flatten) ⟨[]⟩ =
        .error .aboveMax :=
  ⟨by decide, renderAt_of_ifs {} _ 0 ⟨[]⟩ (Nat.sub_lt (by decide) (by decide))⟩

end Guarded

end BracketTemplate
