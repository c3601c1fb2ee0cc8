/-
# Variables printed as they are

A variable directive differs from the html directive with the same name in one thing:
it spells out the angle brackets of what it prints.  So a text can be changed to
print all its variables as they are (`Template.verbatim`), and the render of the
changed text keeps step with that of the text, turn by turn:

| | in both renders |
| --- | --- |
| cursor, steps, context | the same |
| open loops | the same, except for where their directives stand |
| output | the same, once its angle brackets are spelled out (`escapeAngles`) |

The output is put together from literal texts, values and what components print.
Angle brackets are spelled out part by part (`Text.escapeAngles_append`), and where
they are spelled out already nothing is left to do (`Text.escapeAngles_escapeAngles`).
-/

import BracketTemplate.Proofs.Markup
import BracketTemplate.Proofs.Respelling

namespace BracketTemplate

namespace Directive

/-- The body with which a directive prints its variable as it is; another directive,
or one without a name, keeps its body. -/
def verbatimBody (d : Directive) : List Char :=
  if d.kind = .variable ∧ d.keyword ≠ "" then "html".toList ++ ':' :: d.body else d.body

theorem isBody_verbatimBody {d : Directive} (h : IsBody d.body) : IsBody d.verbatimBody := by
  unfold verbatimBody
  split
  · refine ⟨List.append_ne_nil_of_right_ne_nil _ (List.cons_ne_nil _ _), fun c hc => ?_⟩
    have hall : "html".toList.all isBodyChar = true := by decide +kernel
    rcases List.mem_append.1 hc with hc | hc
    · exact List.all_eq_true.1 hall c hc
    · rcases List.mem_cons.1 hc with rfl | hc
      · decide
      · exact h.2 c hc
  · exact h

/-- How a directive is found in the text that prints variables as they are. -/
inductive MadeVerbatim (d : Directive) : Directive → Prop
  | moved (start stop : Nat) : MadeVerbatim d { d with start := start, stop := stop }
  | html {d' : Directive} (hkind : d.kind = .variable) (hkind' : d'.kind = .html)
    (hname : d'.argument? 0 = some d.keyword) : MadeVerbatim d d'

/-- **With `html:` in front, the first segment of a body is an argument.** -/
theorem madeVerbatim_ofBody (body : List Char) (start start' line : Nat) :
    MadeVerbatim (ofBody body start line)
      (ofBody (ofBody body start line).verbatimBody start' line) := by
  unfold verbatimBody
  rw [body_ofBody]
  split
  · rename_i h
    have hcolon : ':' ∉ "html".toList := by decide
    have hbody : ofBody ("html".toList ++ ':' :: body) start' line =
        ⟨"html", (body.splitOn ':').map String.ofList, start',
          start' + (spelling ("html".toList ++ ':' :: body)).length, line⟩ := by
      unfold ofBody
      rw [List.splitOn_append_cons_self_of_not_mem hcolon, List.map_cons, String.ofList_toList]
      rfl
    rw [hbody]
    refine .html h.1 rfl ?_
    cases hsegments : body.splitOn ':' with
    | nil => exact absurd hsegments (List.splitOn_ne_nil ':' body)
    | cons first rest =>
      have hkeyword : (ofBody body start line).keyword = String.ofList first := by
        unfold ofBody
        rw [hsegments]
        rfl
      rw [hkeyword] at h ⊢
      exact Option.filter_some_pos (bne_iff_ne.2 h.2)
  · exact .moved start' _

/-- Where blocks open and close, nothing is different. -/
theorem MadeVerbatim.sameTo {d d' : Directive} (h : MadeVerbatim d d') (b : Block) :
    b.SameTo d d' := by
  cases h with
  | moved start stop => exact ⟨.rfl, .rfl⟩
  | html hkind hkind' hname =>
    constructor
    all_goals rw [hkind, hkind']
    all_goals cases b <;> decide

end Directive

open Directive (MadeVerbatim)

namespace Template

/-- The text that prints as they are the variables that a text prints escaped. -/
def verbatim (text : String) : String := respell Directive.verbatimBody text

/-- Whether a template is another one that prints its variables as they are. -/
structure MadeVerbatim (t t' : Template) : Prop where
  lead : t'.lead = t.lead
  pieces : List.Forall₂ (fun p p' => p'.literal = p.literal ∧
    Directive.MadeVerbatim p.directive p'.directive) t.pieces t'.pieces

/-- **The text is taken apart at the same directives.** -/
theorem madeVerbatim_ofText (text : String) :
    MadeVerbatim (ofText text) (ofText (verbatim text)) := by
  rw [verbatim, ofText_respell _ fun _ => Directive.isBody_verbatimBody]
  refine ⟨rfl, (forall₂_respelledFrom _ (laid_ofText text)).imp ?_⟩
  rintro p p' ⟨hliteral, start, start', hp, hp'⟩
  have hmade := Directive.madeVerbatim_ofBody p.directive.body start start' p.directive.line
  rw [← hp, ← hp'] at hmade
  exact ⟨hliteral, hmade⟩

namespace MadeVerbatim

variable {t t' : Template}

/-- Blocks are closed at the same places. -/
theorem close?_eq (h : MadeVerbatim t t') (b : Block) (start : Nat) :
    b.close? t'.directives start = b.close? t.directives start := by
  have hsame : List.Forall₂ b.SameTo t.directives t'.directives :=
    List.forall₂_map_left_iff.2 (List.forall₂_map_right_iff.2
      (h.pieces.imp fun _ _ hp => hp.2.sameTo b))
  exact (b.close?_congr_of_forall₂ hsame start).symm

/-- The same literal texts stand behind the directives. -/
theorem literal_eq (h : MadeVerbatim t t') (i : Nat) :
    t'.pieces[i]?.map (·.literal) = t.pieces[i]?.map (·.literal) := by
  have hliterals : t'.pieces.map (·.literal) = t.pieces.map (·.literal) := by
    rw [← List.forall₂_eq_eq_eq, List.forall₂_map_left_iff, List.forall₂_map_right_iff]
    exact h.pieces.flip.imp fun _ _ hp => hp.1
  rw [← List.getElem?_map, ← List.getElem?_map, hliterals]

/-- There is a directive at an index in both or in none. -/
theorem getElem?_eq (h : MadeVerbatim t t') (i : Nat) :
    (t.pieces[i]? = none ∧ t'.pieces[i]? = none) ∨
      ∃ p p', t.pieces[i]? = some p ∧ t'.pieces[i]? = some p' ∧
        Directive.MadeVerbatim p.directive p'.directive := by
  have hlen := h.pieces.length_eq
  rcases Nat.lt_or_ge i t.pieces.length with hi | hi
  · have hi' : i < t'.pieces.length := by rwa [← hlen]
    exact .inr ⟨_, _, List.getElem?_eq_getElem hi, List.getElem?_eq_getElem hi',
      (h.pieces.get hi hi').2⟩
  · exact .inl ⟨List.getElem?_eq_none hi, List.getElem?_eq_none (by rwa [← hlen])⟩

end MadeVerbatim

end Template

/-- Whether an open loop is the same, except for where its directive stands. -/
inductive Frame.Moved (f : Frame) : Frame → Prop
  | intro (start stop : Nat) :
    Moved f { f with opener := { f.opener with start := start, stop := stop } }

/-- What a run comes to, with the angle brackets in its output spelled out. -/
def Run.escaped (r : Run) : Except RenderError String × Context :=
  (r.result.map Text.escapeAngles, r.context)

namespace Run

variable {r : Run} {left : Context}

/-- An error is the same however the output is spelled. -/
theorem outcome_eq_error_iff {e : RenderError} :
    r.outcome = (.error e, left) ↔ r.escaped = (.error e, left) := by
  unfold outcome escaped
  cases r.result with
  | error e' => rfl
  | ok text => exact ⟨fun h => (by cases h), fun h => (by cases h)⟩

theorem escaped_of_outcome_eq_ok {text : String} (h : r.outcome = (.ok text, left)) :
    r.escaped = (.ok (Text.escapeAngles text), left) := by
  obtain ⟨hresult, hcontext⟩ := Prod.mk.inj h
  rw [escaped, hresult, hcontext]
  rfl

end Run

/-- Whether states are the same once the angle brackets in the output are spelled out. -/
structure State.Alike (s s' : State) : Prop where
  cursor : s'.cursor = s.cursor
  steps : s'.steps = s.steps
  loops : List.Forall₂ Frame.Moved s.loops s'.loops
  output : Text.escapeAngles s'.output = Text.escapeAngles s.output
  context : s'.context = s.context

namespace State.Alike

variable {s s' : State}

/-- Printing what is alike keeps states alike. -/
theorem emit (h : Alike s s') {text text' : String}
    (htext : Text.escapeAngles text' = Text.escapeAngles text) :
    Alike (s.emit text) (s'.emit text') where
  cursor := h.cursor
  steps := h.steps
  loops := h.loops
  output := by
    change Text.escapeAngles (s'.output ++ text') = Text.escapeAngles (s.output ++ text)
    rw [Text.escapeAngles_append, Text.escapeAngles_append, h.output, htext]
  context := h.context

/-- So does a binding. -/
theorem bind (h : Alike s s') (binding? : Option String) (value : Value) :
    Alike (s.bind binding? value) (s'.bind binding? value) where
  cursor := by rw [State.bind_cursor, State.bind_cursor, h.cursor]
  steps := by rw [State.bind_steps, State.bind_steps, h.steps]
  loops := by rw [State.bind_loops, State.bind_loops]; exact h.loops
  output := by rw [State.bind_output, State.bind_output, h.output]
  context := State.bind_context_congr h.context binding? value

/-- A loop is gone back to in both renders or in none. -/
theorem isReentry_eq (h : Alike s s') : s'.isReentry = s.isReentry := by
  have hloops := h.loops
  unfold State.isReentry
  rw [h.cursor]
  cases hs : s.loops with
  | nil =>
    rw [hs] at hloops
    rw [List.forall₂_nil_left_iff.1 hloops]
  | cons f outer =>
    rw [hs] at hloops
    obtain ⟨f', outer', ⟨start, stop⟩, -, hs'⟩ := List.forall₂_cons_left_iff.1 hloops
    rw [hs']

end State.Alike

/-- Whether directives do the same in both renders. -/
structure Dispatch.Alike (a a' : Dispatch) : Prop where
  flow : a'.flow = a.flow
  state : State.Alike a.state a'.state

namespace Machine

variable {inclusion inclusion' : Inclusion} {layer layer' : Nat} {t t' : Template} {s s' : State}
  {d d' : Directive}

/-- Results that are the same after a function are the same errors, or alike. -/
theorem error_or_ok_of_map_eq {α β ε : Type} {f : α → β} {x x' : Except ε α}
    (h : x'.map f = x.map f) :
    (∃ e, x = .error e ∧ x' = .error e) ∨ ∃ a a', x = .ok a ∧ x' = .ok a' ∧ f a' = f a := by
  cases x with
  | error e =>
    cases x' with
    | error e' => exact .inl ⟨e, rfl, congrArg Except.error (Except.error.inj h)⟩
    | ok a' => cases h
  | ok a =>
    cases x' with
    | error e' => cases h
    | ok a' => exact .inr ⟨a, a', rfl, rfl, Except.ok.inj h⟩

theorem alike_print (h : State.Alike s s') {x x' : Except RenderError String}
    (hx : x'.map Text.escapeAngles = x.map Text.escapeAngles) :
    Dispatch.Alike (.print s x) (.print s' x') := by
  obtain ⟨e, rfl, rfl⟩ | ⟨text, text', rfl, rfl, htext⟩ := error_or_ok_of_map_eq hx
  · exact ⟨rfl, h⟩
  · exact ⟨rfl, h.emit htext⟩

theorem alike_takeOver (h : State.Alike s s') {r r' : Run} (hr : r'.escaped = r.escaped) :
    Dispatch.Alike (takeOver s r) (takeOver s' r') := by
  obtain ⟨hresult, hcontext⟩ := Prod.mk.inj hr
  unfold takeOver
  obtain ⟨e, hx, hx'⟩ | ⟨text, text', hx, hx', htext⟩ := error_or_ok_of_map_eq hresult
  · rw [hx, hx']
    exact ⟨rfl, h.cursor, h.steps, h.loops, h.output, hcontext⟩
  · rw [hx, hx']
    have hemit := h.emit htext
    exact ⟨rfl, hemit.cursor, hemit.steps, hemit.loops, hemit.output, hcontext⟩

/-- A loop opens alike in both renders. -/
theorem alike_openLoop (ht : t.MadeVerbatim t') (h : State.Alike s s') (d : Directive)
    (start stop : Nat) :
    Dispatch.Alike (openLoop layer t.directives s d)
      (openLoop layer' t'.directives s' { d with start := start, stop := stop }) := by
  have hheader : loopHeader t'.directives { d with start := start, stop := stop } s'.cursor
      s'.context = loopHeader t.directives d s.cursor s.context := by
    unfold loopHeader closing
    rw [ht.close?_eq, h.cursor, h.context]
    rfl
  unfold openLoop
  rw [hheader]
  cases loopHeader t.directives d s.cursor s.context with
  | error e => exact ⟨rfl, h⟩
  | ok header =>
    obtain ⟨binding?, close, items⟩ := header
    cases items with
    | nil => exact ⟨rfl, h⟩
    | cons first rest =>
      have hbind := h.bind binding? first
      refine ⟨rfl, hbind.cursor, hbind.steps, ?_, hbind.output, hbind.context⟩
      have hframe : Frame.Moved ⟨s.cursor, d, binding?, first :: rest, 0⟩
          ⟨s'.cursor, { d with start := start, stop := stop }, binding?, first :: rest, 0⟩ := by
        rw [h.cursor]
        exact .intro start stop
      exact .cons hframe h.loops

/-- A loop turns back or closes alike in both renders. -/
theorem alike_closeLoop (h : State.Alike s s') (d : Directive) (start stop : Nat) :
    Dispatch.Alike (closeLoop layer s d)
      (closeLoop layer' s' { d with start := start, stop := stop }) := by
  have hloops := h.loops
  unfold closeLoop
  cases hs : s.loops with
  | nil =>
    rw [hs] at hloops
    rw [List.forall₂_nil_left_iff.1 hloops]
    exact ⟨rfl, h⟩
  | cons f outer =>
    rw [hs] at hloops
    obtain ⟨f', outer', ⟨start', stop'⟩, houter, hs'⟩ := List.forall₂_cons_left_iff.1 hloops
    rw [hs']
    dsimp only
    cases f.items[f.current + 1]? with
    | some item =>
      have hbind := h.bind f.binding? item
      exact ⟨rfl, hbind.cursor, hbind.steps, .cons (.intro start' stop') houter, hbind.output,
        hbind.context⟩
    | none => exact ⟨rfl, h.cursor, h.steps, houter, h.output, h.context⟩

/-- **A directive does the same in both renders.** -/
theorem alike_dispatch
    (hinclusion : ∀ name context,
      (inclusion' name context).escaped = (inclusion name context).escaped)
    (ht : t.MadeVerbatim t') (h : State.Alike s s') (hd : MadeVerbatim d d') :
    Dispatch.Alike (dispatch inclusion layer t.directives s d)
      (dispatch inclusion' layer' t'.directives s' d') := by
  cases hd with
  | html hkind hkind' hname =>
    unfold dispatch
    rw [hkind, hkind']
    dsimp only
    -- one of them spells out the angle brackets, and doing so once more changes nothing
    refine alike_print h ?_
    rw [Directive.requiredArgument, hname, h.context]
    change (Variable.print s.context d.keyword).map Text.escapeAngles = _
    cases Variable.print s.context d.keyword with
    | error e => rfl
    | ok text => exact congrArg Except.ok (Text.escapeAngles_escapeAngles text).symm
  | moved start stop =>
    have hkind : Directive.kind { d with start := start, stop := stop } = d.kind := rfl
    unfold dispatch
    rw [hkind]
    cases d.kind with
    | component =>
      change Dispatch.Alike (includeComponent inclusion s d) (includeComponent inclusion' s' d)
      unfold includeComponent
      cases d.requiredArgument 0 with
      | error e => exact ⟨rfl, h⟩
      | ok name =>
        dsimp only
        rw [h.context]
        exact alike_takeOver h (hinclusion name s.context)
    | loop =>
      dsimp only
      rw [h.isReentry_eq]
      cases s.isReentry with
      | true => exact ⟨rfl, h⟩
      | false => exact alike_openLoop ht h d start stop
    | endLoop => exact alike_closeLoop h d start stop
    | condition =>
      have hflow : conditionFlow t'.directives { d with start := start, stop := stop } s'.cursor
          s'.context = conditionFlow t.directives d s.cursor s.context := by
        unfold conditionFlow closing
        rw [ht.close?_eq, h.cursor, h.context]
        rfl
      dsimp only
      rw [hflow]
      cases conditionFlow t.directives d s.cursor s.context with
      | error e => exact ⟨rfl, h⟩
      | ok flow => exact ⟨rfl, h⟩
    | endCondition => exact ⟨rfl, h⟩
    | html =>
      dsimp only
      rw [h.context]
      exact alike_print h rfl
    | «variable» =>
      dsimp only
      rw [h.context]
      exact alike_print h rfl

/-- The text behind a directive is printed alike. -/
theorem alike_follow (ht : t.MadeVerbatim t') (h : State.Alike s s') (flow : Flow) :
    State.Alike (follow t s flow) (follow t' s' flow) := by
  have hadvance : ∀ index, State.Alike (advance t s index) (advance t' s' index) := by
    intro index
    unfold advance
    rw [ht.literal_eq]
    have hemit := h.emit (Eq.refl (Text.escapeAngles (String.ofList
      ((t.pieces[index]?.map (·.literal)).getD []))))
    exact ⟨rfl, congrArg (· + 1) hemit.steps, hemit.loops, hemit.output, hemit.context⟩
  cases flow with
  | next =>
    have hcursor := hadvance s.cursor
    rw [← h.cursor] at hcursor
    unfold follow
    dsimp only
    rwa [h.cursor] at hcursor ⊢
  | skipTo index => exact hadvance index
  | rewind index => exact ⟨rfl, h.steps, h.loops, h.output, h.context⟩

/-- Whether turns do the same in both renders. -/
inductive Turn.Alike : Turn → Turn → Prop
  | go {s s' : State} (h : State.Alike s s') (events events' : List Event) :
    Alike (.go s events) (.go s' events')
  | halt {r r' : Run} (h : r'.escaped = r.escaped) : Alike (.halt r) (.halt r')

/-- The end of a render is the same. -/
theorem escaped_finish (h : State.Alike s s') : (finish s').escaped = (finish s).escaped := by
  have hloops := h.loops
  unfold finish
  cases hs : s.loops with
  | nil =>
    rw [hs] at hloops
    rw [List.forall₂_nil_left_iff.1 hloops]
    exact Prod.ext (congrArg Except.ok h.output) h.context
  | cons f outer =>
    rw [hs] at hloops
    obtain ⟨f', outer', ⟨start, stop⟩, -, hs'⟩ := List.forall₂_cons_left_iff.1 hloops
    rw [hs']
    exact Prod.ext rfl h.context

/-- **A turn does the same in both renders.** -/
theorem alike_turn
    (hinclusion : ∀ name context,
      (inclusion' name context).escaped = (inclusion name context).escaped)
    (ht : t.MadeVerbatim t') (h : State.Alike s s') :
    Turn.Alike (turn inclusion layer t s) (turn inclusion' layer' t' s') := by
  unfold turn
  rw [h.cursor, h.steps]
  rcases ht.getElem?_eq s.cursor with ⟨hp, hp'⟩ | ⟨p, p', hp, hp', hd⟩
  · rw [hp, hp']
    exact .halt (escaped_finish h)
  · rw [hp, hp']
    dsimp only
    split
    · exact .halt (Prod.ext rfl h.context)
    · obtain ⟨hflow, hstate⟩ : Dispatch.Alike (dispatch inclusion layer t.directives s p.directive)
          (dispatch inclusion' layer' t'.directives s' p'.directive) :=
        alike_dispatch hinclusion ht h hd
      rw [hflow]
      cases (dispatch inclusion layer t.directives s p.directive).flow with
      | error e => exact .halt (Prod.ext rfl hstate.context)
      | ok flow => exact .go (alike_follow ht hstate flow) _ _

/-- **So does a run.** -/
theorem escaped_run
    (hinclusion : ∀ name context,
      (inclusion' name context).escaped = (inclusion name context).escaped)
    (ht : t.MadeVerbatim t') (context : Context) :
    (run inclusion' layer' t' context).escaped = (run inclusion layer t context).escaped := by
  -- both take the same number of turns
  have hfor : ∀ turns s s', State.Alike s s' →
      (runFor inclusion' layer' t' turns s').escaped =
        (runFor inclusion layer t turns s).escaped := by
    intro turns
    induction turns with
    | zero => exact fun s s' h => Prod.ext rfl h.context
    | succ turns ih =>
      intro s s' h
      have hturn : Turn.Alike (turn inclusion layer t s) (turn inclusion' layer' t' s') :=
        alike_turn hinclusion ht h
      unfold runFor
      generalize turn inclusion layer t s = a at hturn ⊢
      generalize turn inclusion' layer' t' s' = a' at hturn ⊢
      cases hturn with
      | go h' events events' => exact ih _ _ h'
      | halt hr => exact hr
  have hstart : State.Alike (start t context) (start t' context) := by
    unfold start
    rw [ht.lead]
    exact ⟨rfl, rfl, .nil, rfl, rfl⟩
  have hpieces := ht.pieces
  unfold run
  cases hp : t.pieces with
  | nil =>
    rw [hp] at hpieces
    rw [List.forall₂_nil_left_iff.1 hpieces, ht.lead]
  | cons p rest =>
    rw [hp] at hpieces
    obtain ⟨p', rest', -, -, hp'⟩ := List.forall₂_cons_left_iff.1 hpieces
    rw [hp']
    exact hfor _ _ _ hstart

end Machine

/-- The loader that gives its sources with their variables printed as they are. -/
def Loader.verbatim (loader : Loader) : Loader := fun path =>
  (loader path).map Template.verbatim

namespace Render

variable (settings : Settings) (loader : Loader)

/-- **A render that prints variables as they are comes to the same**, once the angle
brackets are spelled out. -/
theorem escaped_renderAt_verbatim (layer : Nat) (text : String) (context : Context) :
    (renderAt settings loader.verbatim layer (Template.verbatim text) context).escaped =
      (renderAt settings loader layer text context).escaped := by
  induction hleft : maxLayer - layer using Nat.strongRecOn generalizing layer text context with
  | ind left ih =>
    rw [renderAt_eq_run, renderAt_eq_run]
    refine Machine.escaped_run (fun name context => ?_) (Template.madeVerbatim_ofText text) context
    unfold componentAt loadThen Loader.verbatim
    split
    · rename_i hlayer
      cases loader (settings.componentPath name) with
      | error e => rfl
      | ok source => exact ih _ (by omega) (layer + 1) source context rfl
    · rfl

/-- **The two ways to print a variable differ in nothing but the angle brackets.**  The
text and all sources may be changed to print their variables as they are, in just the
directives that have a name to print.  Then a render fails exactly when it failed
before, with the same error and leaving the same context; and when both come to an
end, they leave the same context and print the same once the angle brackets are
spelled out. -/
theorem renderAt_verbatim (layer : Nat) (text : String) (context : Context) :
    (Directive.scan (Template.verbatim text)).map Directive.body =
        (Directive.scan text).map Directive.verbatimBody ∧
    (∀ e left,
      (renderAt settings loader.verbatim layer (Template.verbatim text) context).outcome =
          (.error e, left) ↔
        (renderAt settings loader layer text context).outcome = (.error e, left)) ∧
    ∀ printed escaped left left',
      (renderAt settings loader.verbatim layer (Template.verbatim text) context).outcome =
          (.ok printed, left) →
        (renderAt settings loader layer text context).outcome = (.ok escaped, left') →
        left = left' ∧ Text.escapeAngles printed = Text.escapeAngles escaped := by
  have hescaped := escaped_renderAt_verbatim settings loader layer text context
  refine ⟨Template.body_scan_respell _ (fun _ => Directive.isBody_verbatimBody) text,
    fun e left => ?_, fun printed escaped left left' h h' => ?_⟩
  · rw [Run.outcome_eq_error_iff, hescaped, Run.outcome_eq_error_iff]
  · rw [Run.escaped_of_outcome_eq_ok h, Run.escaped_of_outcome_eq_ok h'] at hescaped
    obtain ⟨htext, hleft⟩ := Prod.mk.inj hescaped
    exact ⟨hleft, Except.ok.inj htext⟩

/-- Directives of other kinds and those without a name stay as they are. -/
example : Template.verbatim "<[[ x.y:z ]]>[[ :x ]][[ for:xs:x ]][[ html:x ]][[ x ]][[ endfor ]]" =
    "<[[ html:x.y:z ]]>[[ :x ]][[ for:xs:x ]][[ html:x ]][[ html:x ]][[ endfor ]]" := by cbv

end Render

end BracketTemplate
