/-
# A template found again in another one

A part of a text is carried out as it would be by itself: the directives are at
other indices and on other lines, other loops may be open around them, something
may have been printed before, and other literal text may follow.  `Replay` lists
what is needed for that, `Replay.Mirrors` relates the states of the two renders,
and a turn of the one is a turn of the other (`Replay.leads`, `Replay.ends_of_error`).

Errors are compared by a view of them, as the lines in them may differ
(`RenderError.unplaced`), and of a render that fails with an excused error
nothing is said.  A block without an end is such an error: more text may end it.
An index that is not live, where a component is, is left to the user of a replay.
-/

import BracketTemplate.Proofs.Outcomes

namespace BracketTemplate

variable {α β γ δ : Type}

/-- An error without the line that it names. -/
def RenderError.unplaced : RenderError → RenderError
  | .missingArgument keyword _ => .missingArgument keyword 0
  | .unterminatedBlock keyword _ => .unterminatedBlock keyword 0
  | .unmatchedClose keyword _ => .unmatchedClose keyword 0
  | .notASequence name _ => .notASequence name 0
  | e => e

/-- Whether two parts of renders come to the same, unless the first fails with an
excused error. -/
inductive Agree (view : RenderError → RenderError) (excused : RenderError → Prop)
    (R : α → β → Prop) : Except RenderError α → Except RenderError β → Prop
  | ok {a : α} {b : β} (h : R a b) : Agree view excused R (.ok a) (.ok b)
  | error {e e' : RenderError} (h : view e' = view e) :
    Agree view excused R (.error e) (.error e')
  | exempt {e : RenderError} {x : Except RenderError β} (h : excused e) :
    Agree view excused R (.error e) x

variable {view : RenderError → RenderError} {excused : RenderError → Prop}

theorem Agree.same (x : Except RenderError α) : Agree view excused Eq x x := by
  cases x with
  | ok a => exact .ok rfl
  | error e => exact .error rfl

/-- Sequences agree if their parts do. -/
theorem Agree.bind {R : α → β → Prop} {Q : γ → δ → Prop} {x : Except RenderError α}
    {y : Except RenderError β} {f : α → Except RenderError γ} {g : β → Except RenderError δ}
    (h : Agree view excused R x y) (hf : ∀ a b, R a b → Agree view excused Q (f a) (g b)) :
    Agree view excused Q (x >>= f) (y >>= g) := by
  cases h with
  | ok h => exact hf _ _ h
  | error h => exact .error h
  | exempt h => exact .exempt h

/-- What is printed is the same if the parts agree, and what is looked at in an error. -/
theorem Agree.mapError_eq {x y : Except RenderError String}
    (h : Agree view (fun _ => False) (fun text text' => text' = "" ++ text) x y) :
    y.mapError view = x.mapError view := by
  cases h with
  | ok h => exact congrArg Except.ok (h.trans String.empty_append)
  | error h => exact congrArg Except.error h
  | exempt h => exact h.elim

/-- Whether directives are written the same, and on the same line unless lines
are not looked at. -/
structure Directive.Like (view : RenderError → RenderError) (d d' : Directive) : Prop where
  keyword : d'.keyword = d.keyword
  args : d'.args = d.args
  line : d'.line = d.line ∨ view = RenderError.unplaced

namespace Directive.Like

variable {d d' : Directive}

theorem kind (h : Like view d d') : d'.kind = d.kind := congrArg Kind.ofKeyword h.keyword

theorem argument? (h : Like view d d') (i : Nat) : d'.argument? i = d.argument? i :=
  congrArg (fun args : List String => args[i]?.filter (· != "")) h.args

/-- An error that names the line looks the same for both. -/
theorem view_line (h : Like view d d') (e : Nat → RenderError)
    (he : ∀ line line', (e line).unplaced = (e line').unplaced) :
    view (e d'.line) = view (e d.line) := by
  rcases h.line with h | rfl
  · rw [h]
  · exact he _ _

theorem requiredArgument (h : Like view d d') (i : Nat) :
    Agree view excused Eq (d.requiredArgument i) (d'.requiredArgument i) := by
  unfold Directive.requiredArgument
  rw [h.argument?, h.keyword]
  cases d.argument? i with
  | some argument => exact .ok rfl
  | none => exact .error (h.view_line (.missingArgument d.keyword) fun _ _ => rfl)

theorem readItems (h : Like view d d') (context : Context) (name : String) :
    Agree view excused Eq (Variable.readItems context name d.line)
      (Variable.readItems context name d'.line) := by
  refine (Agree.same (Variable.read context name)).bind fun value _ hvalue => ?_
  subst hvalue
  cases value.items? with
  | some items => exact .ok rfl
  | none => exact .error (h.view_line (.notASequence name) fun _ _ => rfl)

end Directive.Like

namespace Machine

/-- How a template is found again in another one. -/
structure Replay (inclusion inclusion' : Inclusion) (t t' : Template) where
  /-- The index at which a directive is found. -/
  place : Nat → Nat
  /-- Whether the directive at an index is carried out in the same way. -/
  live : Nat → Prop
  /-- The literal text that is printed in addition when an index is come to. -/
  extra : Nat → List Char
  /-- The loops that are open around the other render. -/
  held : List Frame
  /-- What the other render has printed before. -/
  before : String
  /-- What is looked at in an error. -/
  view : RenderError → RenderError
  /-- The errors after which renders are not compared. -/
  excused : RenderError → Prop
  piece : ∀ {i : Nat} {p : Piece}, t.pieces[i]? = some p → live i →
    ∃ p', t'.pieces[place i]? = some p' ∧ Directive.Like view p.directive p'.directive ∧
      p'.literal = p.literal ++ extra (i + 1)
  place_succ : ∀ {i : Nat}, i < t.pieces.length → live i → place (i + 1) = place i + 1
  extra_eq : ∀ {i : Nat}, i < t.pieces.length → live i → extra i = []
  live_of_kind : ∀ {i : Nat} {p : Piece}, t.pieces[i]? = some p →
    p.directive.kind ≠ .component → live i
  place_inj : ∀ {i j : Nat}, live i → live j → place i = place j → i = j
  held_ne : ∀ f ∈ held, ∀ {i : Nat}, live i → f.origin ≠ place i
  held_eq : held = [] ∨ ∀ keyword line, excused (.unmatchedClose keyword line)
  close : ∀ {b : Block} {i k : Nat}, live i → b.close? t.directives i = some k →
    b.close? t'.directives (place i) = some (place k)
  close_none : ∀ {b : Block} {i : Nat}, live i → b.close? t.directives i = none →
    (∀ keyword line, excused (.unterminatedBlock keyword line)) ∨
      b.close? t'.directives (place i) = none
  included : ∀ name context, (∀ e, (inclusion name context).result = .error e → ¬ excused e) →
    (inclusion' name context).outcome = (inclusion name context).outcome

namespace Replay

variable {inclusion inclusion' : Inclusion} {t t' : Template}
  (r : Replay inclusion inclusion' t t')

/-- Whether an open loop is the other one, found again. -/
structure FrameMirrors (f f' : Frame) : Prop where
  origin : f'.origin = r.place f.origin
  opener : Directive.Like r.view f.opener f'.opener
  binding? : f'.binding? = f.binding?
  items : f'.items = f.items
  current : f'.current = f.current

/-- Whether the second state is the first one, found again. -/
structure Mirrors (s s' : State) : Prop where
  cursor : s'.cursor = r.place s.cursor
  loops : ∃ moved, s'.loops = moved ++ r.held ∧ List.Forall₂ r.FrameMirrors s.loops moved
  output : s'.output = r.before ++ (s.output ++ String.ofList (r.extra s.cursor))
  context : s'.context = s.context

/-- Whether the second flow leads to where the first one does. -/
inductive FlowMirrors : Flow → Flow → Prop
  | next : FlowMirrors .next .next
  | skipTo {k : Nat} (hk : k < t.pieces.length) (hlive : r.live k) :
    FlowMirrors (.skipTo k) (.skipTo (r.place k))
  | rewind {i : Nat} (hi : i < t.pieces.length) (hlive : r.live i) :
    FlowMirrors (.rewind i) (.rewind (r.place i))

/-- Whether a directive does the same in both renders. -/
inductive Answers : Dispatch → Dispatch → Prop
  | go {a a' : Dispatch} {flow flow' : Flow} (ha : a.flow = .ok flow) (ha' : a'.flow = .ok flow')
    (hflow : r.FlowMirrors flow flow') (hstate : r.Mirrors a.state a'.state) : Answers a a'
  | fail {a a' : Dispatch} {e e' : RenderError} (ha : a.flow = .error e)
    (ha' : a'.flow = .error e') (hview : r.view e' = r.view e)
    (hcontext : a'.state.context = a.state.context) : Answers a a'
  | exempt {a a' : Dispatch} {e : RenderError} (ha : a.flow = .error e) (he : r.excused e) :
    Answers a a'

variable {r}

/-- Printing keeps the states alike, where nothing is printed in addition. -/
theorem Mirrors.emit {s s' : State} (h : r.Mirrors s s') (hextra : r.extra s.cursor = [])
    (text : String) : r.Mirrors (s.emit text) (s'.emit text) where
  cursor := h.cursor
  loops := h.loops
  output := by
    have hout : s'.output = r.before ++ (s.output ++ String.ofList (r.extra s.cursor)) := h.output
    have hextra' : r.extra (s.emit text).cursor = [] := hextra
    rw [hextra, String.ofList_nil, String.append_empty] at hout
    rw [hextra', String.ofList_nil, String.append_empty]
    change s'.output ++ text = r.before ++ (s.output ++ text)
    rw [hout, String.append_assoc]
  context := h.context

/-- So does a binding. -/
theorem Mirrors.bind {s s' : State} (h : r.Mirrors s s') (binding? : Option String)
    (value : Value) : r.Mirrors (s.bind binding? value) (s'.bind binding? value) where
  cursor := by rw [State.bind_cursor, State.bind_cursor, h.cursor]
  loops := by rw [State.bind_loops, State.bind_loops]; exact h.loops
  output := by rw [State.bind_output, State.bind_output, State.bind_cursor]; exact h.output
  context := State.bind_context_congr h.context binding? value

/-- A loop is gone back to in both renders or in none. -/
theorem Mirrors.isReentry_eq {s s' : State} (h : r.Mirrors s s') (hs : Sound t s)
    (hlive : r.live s.cursor) : s'.isReentry = s.isReentry := by
  obtain ⟨moved, hmoved, hloops⟩ := h.loops
  unfold State.isReentry
  rw [hmoved, h.cursor]
  cases hloop : s.loops with
  | nil =>
    rw [hloop] at hloops
    cases hloops
    rw [List.nil_append]
    cases hheld : r.held with
    | nil => rfl
    | cons f rest =>
      have hne : f.origin ≠ r.place s.cursor :=
        r.held_ne f (by rw [hheld]; exact List.mem_cons_self) hlive
      exact beq_eq_false_iff_ne.2 hne
  | cons f outer =>
    rw [hloop] at hloops
    obtain ⟨f', outer', hf, -, rfl⟩ := List.forall₂_cons_left_iff.1 hloops
    obtain ⟨p, hp, hkind, -⟩ := hs.opener f (by rw [hloop]; exact List.mem_cons_self)
    have hlive' : r.live f.origin := r.live_of_kind hp (by rw [hkind]; decide)
    have hiff : f'.origin = r.place s.cursor ↔ f.origin = s.cursor := by
      rw [hf.origin]
      exact ⟨r.place_inj hlive' hlive, congrArg r.place⟩
    exact Bool.eq_iff_iff.2 (by simpa using hiff)

/-- Every loop that is open in the other render is one of this one. -/
theorem Mirrors.exists_of_mem {s s' : State} (h : r.Mirrors s s') (hheld : r.held = [])
    {f' : Frame} (hf' : f' ∈ s'.loops) : ∃ f ∈ s.loops, r.FrameMirrors f f' := by
  obtain ⟨moved, hmoved, hloops⟩ := h.loops
  rw [hmoved, hheld, List.append_nil] at hf'
  clear hmoved
  generalize s.loops = loops at hloops ⊢
  induction hloops with
  | nil => exact absurd hf' List.not_mem_nil
  | cons hf _ ih =>
    rcases List.mem_cons.1 hf' with rfl | hf'
    · exact ⟨_, List.mem_cons_self, hf⟩
    · obtain ⟨g, hg, hmirrors⟩ := ih hf'
      exact ⟨g, List.mem_cons_of_mem _ hg, hmirrors⟩

/-- Where no loop has been gone back to, the loops that are open in the other
render were opened in front of the cursor. -/
theorem Mirrors.exists_origin_eq {s s' : State} (h : r.Mirrors s s') (hs : Sound t s)
    (hheld : r.held = []) (hentry : s.isReentry = false) {f' : Frame} (hf' : f' ∈ s'.loops) :
    ∃ i < s.cursor, f'.origin = r.place i := by
  obtain ⟨f, hf, hmirrors⟩ := h.exists_of_mem hheld hf'
  exact ⟨f.origin, hs.origin_lt hf hentry, hmirrors.origin⟩

/-- A directive that fails in both renders. -/
theorem answers_of_error {s s' : State} (h : r.Mirrors s s') {e e' : RenderError}
    (he : r.view e' = r.view e) : r.Answers (.fail s e) (.fail s' e') :=
  .fail rfl rfl he h.context

/-- A directive that prints the same in both renders. -/
theorem answers_print {s s' : State} (h : r.Mirrors s s') (hextra : r.extra s.cursor = [])
    {x x' : Except RenderError String} (hx : Agree r.view r.excused Eq x x') :
    r.Answers (.print s x) (.print s' x') := by
  cases hx with
  | ok htext =>
    subst htext
    exact .go rfl rfl .next (h.emit hextra _)
  | error he => exact answers_of_error h he
  | exempt he => exact .exempt rfl he

/-- A component that is rendered in both renders. -/
theorem answers_includeComponent {s s' : State} (h : r.Mirrors s s')
    (hextra : r.extra s.cursor = []) {d d' : Directive} (hd : Directive.Like r.view d d') :
    r.Answers (includeComponent inclusion s d) (includeComponent inclusion' s' d') := by
  have hname : Agree r.view r.excused Eq (d.requiredArgument 0) (d'.requiredArgument 0) :=
    hd.requiredArgument 0
  unfold includeComponent
  generalize d.requiredArgument 0 = x at hname ⊢
  generalize d'.requiredArgument 0 = x' at hname ⊢
  cases hname with
  | error he => exact answers_of_error h he
  | exempt he => exact .exempt rfl he
  | @ok name _ heq =>
    subst heq
    dsimp only
    rw [h.context]
    have hincluded := r.included name s.context
    generalize inclusion name s.context = run at hincluded ⊢
    generalize inclusion' name s.context = run' at hincluded ⊢
    unfold takeOver
    cases hresult : run.result with
    | ok text =>
      obtain ⟨hresult', hcontext'⟩ := Prod.ext_iff.1 (hincluded fun e he => by
        rw [hresult] at he; cases he)
      rw [show run'.result = .ok text from hresult'.trans hresult]
      obtain ⟨hcursor, hloops, houtput, -⟩ := h.emit hextra text
      exact .go rfl rfl .next ⟨hcursor, hloops, houtput, hcontext'⟩
    | error e =>
      by_cases he : r.excused e
      · exact .exempt rfl he
      · obtain ⟨hresult', hcontext'⟩ := Prod.ext_iff.1 (hincluded fun e' he' => by
          rw [hresult] at he'; cases he'; exact he)
        rw [show run'.result = .error e from hresult'.trans hresult]
        exact .fail rfl rfl rfl hcontext'

/-- A block is closed in both renders at the same directive, or in none. -/
theorem agree_closing (b : Block) {d d' : Directive} (hd : Directive.Like r.view d d') {i : Nat}
    (hlive : r.live i) :
    Agree r.view r.excused (fun k k' => k' = r.place k ∧ b.close? t.directives i = some k)
      (closing b t.directives d i) (closing b t'.directives d' (r.place i)) := by
  unfold closing
  cases hclose : b.close? t.directives i with
  | some k =>
    rw [r.close hlive hclose]
    exact .ok ⟨rfl, rfl⟩
  | none =>
    rcases r.close_none hlive hclose with he | hnone
    · exact .exempt (he _ _)
    · rw [hnone, hd.keyword]
      exact .error (hd.view_line (.unterminatedBlock d.keyword) fun _ _ => rfl)

/-- The header of a loop says the same in both renders. -/
theorem agree_loopHeader {d d' : Directive} (hd : Directive.Like r.view d d') {i : Nat}
    (hlive : r.live i) (context : Context) :
    Agree r.view r.excused
      (fun a a' => a' = (a.1, r.place a.2.1, a.2.2) ∧
        Block.loop.close? t.directives i = some a.2.1)
      (loopHeader t.directives d i context)
      (loopHeader t'.directives d' (r.place i) context) := by
  unfold loopHeader
  refine (hd.requiredArgument 0).bind fun name _ hname => ?_
  subst hname
  rw [hd.argument?]
  refine (Agree.same _).bind fun binding? _ hbinding => ?_
  subst hbinding
  refine (agree_closing .loop hd hlive).bind fun k _ hk => ?_
  obtain ⟨rfl, hclose⟩ := hk
  refine (hd.readItems context name).bind fun items _ hitems => ?_
  subst hitems
  exact .ok ⟨rfl, hclose⟩

/-- Where a block is closed, a directive is found again. -/
theorem flowMirrors_skipTo {b : Block} {i k : Nat} (h : b.close? t.directives i = some k) :
    r.FlowMirrors (.skipTo k) (.skipTo (r.place k)) := by
  obtain ⟨-, d, hd, hkind⟩ := b.exists_of_close? h
  obtain ⟨p, hp, rfl⟩ : ∃ p, t.pieces[k]? = some p ∧ p.directive = d :=
    Option.map_eq_some_iff.1 ((List.getElem?_map ..).symm.trans hd)
  obtain ⟨hk, -⟩ := List.getElem?_eq_some_iff.1 hp
  exact .skipTo hk (r.live_of_kind hp (by rw [hkind]; cases b <;> decide))

/-- A condition leads to the same place in both renders. -/
theorem agree_conditionFlow {d d' : Directive} (hd : Directive.Like r.view d d') {i : Nat}
    (hlive : r.live i) (context : Context) :
    Agree r.view r.excused r.FlowMirrors (conditionFlow t.directives d i context)
      (conditionFlow t'.directives d' (r.place i) context) := by
  unfold conditionFlow
  refine (hd.requiredArgument 0).bind fun name _ hname => ?_
  subst hname
  refine (agree_closing .condition hd hlive).bind fun k _ hk => ?_
  obtain ⟨rfl, hclose⟩ := hk
  refine (Agree.same (Variable.read context name)).bind fun value _ hvalue => ?_
  subst hvalue
  refine .ok ?_
  split
  · exact .next
  · exact flowMirrors_skipTo hclose

/-- A loop is opened, or skipped, in both renders. -/
theorem answers_openLoop {layer layer' : Nat} {s s' : State} (h : r.Mirrors s s')
    {d d' : Directive} (hd : Directive.Like r.view d d') (hlive : r.live s.cursor) :
    r.Answers (openLoop layer t.directives s d) (openLoop layer' t'.directives s' d') := by
  have hheader := agree_loopHeader hd hlive s.context
  unfold openLoop
  rw [h.cursor, h.context]
  generalize loopHeader t.directives d s.cursor s.context = x at hheader ⊢
  generalize loopHeader t'.directives d' (r.place s.cursor) s.context = x' at hheader ⊢
  cases hheader with
  | error he => exact answers_of_error h he
  | exempt he => exact .exempt rfl he
  | @ok a _ ha =>
    obtain ⟨binding?, k, items⟩ := a
    obtain ⟨rfl, hclose⟩ := ha
    cases items with
    | nil => exact .go rfl rfl (flowMirrors_skipTo hclose) h
    | cons first rest =>
      refine .go rfl rfl .next ?_
      obtain ⟨hcursor, -, houtput, hcontext⟩ := h.bind binding? first
      obtain ⟨moved, hmoved, hloops⟩ := h.loops
      refine ⟨hcursor, ⟨⟨r.place s.cursor, d', binding?, first :: rest, 0⟩ :: moved, ?_, ?_⟩,
        houtput, hcontext⟩
      · exact congrArg (List.cons _) hmoved
      · exact .cons ⟨rfl, hd, rfl, rfl, rfl⟩ hloops

/-- The innermost loop is gone back to, or left, in both renders. -/
theorem answers_closeLoop {layer layer' : Nat} {s s' : State} (h : r.Mirrors s s')
    (hs : Sound t s) {d d' : Directive} (hd : Directive.Like r.view d d') :
    r.Answers (closeLoop layer s d) (closeLoop layer' s' d') := by
  obtain ⟨moved, hmoved, hloops⟩ := h.loops
  unfold closeLoop
  cases hloop : s.loops with
  | nil =>
    rcases r.held_eq with hheld | he
    · rw [hloop] at hloops
      cases hloops
      rw [hmoved, hheld, hd.keyword]
      exact answers_of_error h
        (hd.view_line (.unmatchedClose d.keyword) fun _ _ => rfl)
    · exact .exempt rfl (he _ _)
  | cons f outer =>
    rw [hloop] at hloops
    obtain ⟨f', outer', hf, houter, rfl⟩ := List.forall₂_cons_left_iff.1 hloops
    rw [hmoved, List.cons_append]
    dsimp only
    rw [hf.items, hf.current, hf.binding?]
    cases hitem : f.items[f.current + 1]? with
    | none =>
      exact .go rfl rfl .next ⟨h.cursor, ⟨outer', rfl, houter⟩, h.output, h.context⟩
    | some item =>
      obtain ⟨p, hp, hkind, -⟩ := hs.opener f (by rw [hloop]; exact List.mem_cons_self)
      obtain ⟨hlt, -⟩ := List.getElem?_eq_some_iff.1 hp
      have hlive : r.live f.origin := r.live_of_kind hp (by rw [hkind]; decide)
      obtain ⟨hcursor, -, houtput, hcontext⟩ := h.bind f.binding? item
      refine .go rfl rfl (by rw [hf.origin]; exact .rewind hlt hlive) ?_
      refine ⟨hcursor, ⟨_ :: outer', rfl, .cons ?_ houter⟩, houtput, hcontext⟩
      exact ⟨hf.origin, hf.opener, rfl, rfl, rfl⟩

/-- **A directive does the same in both renders.** -/
theorem answers_dispatch {layer layer' : Nat} {s s' : State} (h : r.Mirrors s s')
    (hs : Sound t s) {d d' : Directive} (hd : Directive.Like r.view d d')
    (hlive : r.live s.cursor) (hextra : r.extra s.cursor = []) :
    r.Answers (dispatch inclusion layer t.directives s d)
      (dispatch inclusion' layer' t'.directives s' d') := by
  unfold dispatch
  rw [hd.kind]
  cases d.kind with
  | component => exact answers_includeComponent h hextra hd
  | loop =>
    dsimp only
    rw [h.isReentry_eq hs hlive]
    split
    · exact .go rfl rfl .next h
    · exact answers_openLoop h hd hlive
  | endLoop => exact answers_closeLoop h hs hd
  | condition =>
    dsimp only
    have hflow := agree_conditionFlow hd hlive s.context
    rw [h.cursor, h.context]
    generalize conditionFlow t.directives d s.cursor s.context = x at hflow ⊢
    generalize conditionFlow t'.directives d' (r.place s.cursor) s.context = x' at hflow ⊢
    cases hflow with
    | ok hflow => exact .go rfl rfl hflow h
    | error he => exact answers_of_error h he
    | exempt he => exact .exempt rfl he
  | endCondition => exact .go rfl rfl .next h
  | html =>
    refine answers_print h hextra ((hd.requiredArgument 0).bind fun name _ hname => ?_)
    rw [hname, h.context]
    exact .same _
  | «variable» =>
    refine answers_print h hextra ?_
    rw [hd.keyword, h.context]
    exact .same _

/-- A step to the text after a directive leads to the same place in both renders. -/
theorem Mirrors.advance {s s' : State} (h : r.Mirrors s s') (hextra : r.extra s.cursor = [])
    {k : Nat} (hk : k < t.pieces.length) (hlive : r.live k) :
    r.Mirrors (Machine.advance t s k) (Machine.advance t' s' (r.place k)) := by
  obtain ⟨p', hp', -, hliteral⟩ := r.piece (List.getElem?_eq_getElem hk) hlive
  refine ⟨(r.place_succ hk hlive).symm, h.loops, ?_, h.context⟩
  have hout : s'.output = r.before ++ (s.output ++ String.ofList (r.extra s.cursor)) := h.output
  rw [hextra, String.ofList_nil, String.append_empty] at hout
  unfold Machine.advance
  rw [List.getElem?_eq_getElem hk, hp']
  change s'.output ++ String.ofList p'.literal = r.before ++
    (s.output ++ String.ofList t.pieces[k].literal ++ String.ofList (r.extra (k + 1)))
  rw [hout, hliteral, String.ofList_append]
  simp only [String.append_assoc]

/-- What a directive leads to mirrors what it leads to in the other render, and
takes as many steps. -/
theorem Mirrors.follow {s s' : State} (h : r.Mirrors s s') (hlt : s.cursor < t.pieces.length)
    (hlive : r.live s.cursor) {flow flow' : Flow} (hflow : r.FlowMirrors flow flow') :
    r.Mirrors (Machine.follow t s flow) (Machine.follow t' s' flow') ∧
      (Machine.follow t' s' flow').steps + s.steps =
        s'.steps + (Machine.follow t s flow).steps := by
  have hextra : r.extra s.cursor = [] := r.extra_eq hlt hlive
  cases hflow with
  | next =>
    refine ⟨?_, Nat.add_right_comm ..⟩
    unfold Machine.follow
    rw [h.cursor]
    exact h.advance hextra hlt hlive
  | skipTo hk hklive => exact ⟨h.advance hextra hk hklive, Nat.add_right_comm ..⟩
  | @rewind i hi hilive =>
    refine ⟨⟨rfl, h.loops, ?_, h.context⟩, rfl⟩
    have hout : s'.output = r.before ++ (s.output ++ String.ofList (r.extra s.cursor)) := h.output
    rw [hextra] at hout
    change s'.output = r.before ++ (s.output ++ String.ofList (r.extra i))
    rw [hout, r.extra_eq hi hilive]

variable (r) in
/-- **A turn of the one render is a turn of the other**, unless the other has too
many steps. -/
theorem leads {layer layer' : Nat} {s s₁ s' : State} (h : r.Mirrors s s') (hs : Sound t s)
    (hlive : r.live s.cursor) (hsteps : s'.steps ≤ maxSteps)
    (hlead : Leads inclusion layer t s s₁) :
    ∃ s₁', Leads inclusion' layer' t' s' s₁' ∧ r.Mirrors s₁ s₁' ∧
      s₁'.steps + s.steps = s'.steps + s₁.steps := by
  obtain ⟨events, hgo⟩ := hlead
  obtain ⟨p, flow, hp, -, hflow, rfl⟩ := flow_of_go hgo
  obtain ⟨hlt, -⟩ := List.getElem?_eq_some_iff.1 hp
  obtain ⟨p', hp', hlike, -⟩ := r.piece hp hlive
  rw [← h.cursor] at hp'
  have hanswers : r.Answers (dispatch inclusion layer t.directives s p.directive)
      (dispatch inclusion' layer' t'.directives s' p'.directive) :=
    answers_dispatch h hs hlike hlive (r.extra_eq hlt hlive)
  obtain ⟨hcursor, hsteps₁⟩ := dispatch_place inclusion layer t.directives s p.directive
  obtain ⟨-, hsteps₁'⟩ := dispatch_place inclusion' layer' t'.directives s' p'.directive
  cases hanswers with
  | go ha ha' hflows hstate =>
    obtain rfl := Except.ok.inj (ha.symm.trans hflow)
    have hfollow := hstate.follow (by rwa [hcursor]) (by rwa [hcursor]) hflows
    rw [hsteps₁, hsteps₁'] at hfollow
    exact ⟨_, leads_of_dispatch hp' hsteps ha', hfollow⟩
  | fail ha => rw [hflow] at ha; cases ha
  | exempt ha => rw [hflow] at ha; cases ha

variable (r) in
/-- **A directive that fails in the one render fails in the other**, unless the
other has too many steps or the error is excused. -/
theorem exists_halt_of_error {layer layer' : Nat} {s s' : State} (h : r.Mirrors s s')
    (hs : Sound t s) (hlive : r.live s.cursor) (hsteps : s'.steps ≤ maxSteps) {p : Piece}
    (hp : t.pieces[s.cursor]? = some p) {e : RenderError}
    (he : (dispatch inclusion layer t.directives s p.directive).flow = .error e) :
    r.excused e ∨ ∃ e' events, r.view e' = r.view e ∧ turn inclusion' layer' t' s' = .halt
      ⟨.error e', (dispatch inclusion layer t.directives s p.directive).state.context, events⟩ := by
  obtain ⟨hlt, -⟩ := List.getElem?_eq_some_iff.1 hp
  obtain ⟨p', hp', hlike, -⟩ := r.piece hp hlive
  rw [← h.cursor] at hp'
  have hanswers : r.Answers (dispatch inclusion layer t.directives s p.directive)
      (dispatch inclusion' layer' t'.directives s' p'.directive) :=
    answers_dispatch h hs hlike hlive (r.extra_eq hlt hlive)
  cases hanswers with
  | go ha => rw [he] at ha; cases ha
  | fail ha ha' hview hcontext =>
    obtain rfl := Except.error.inj (ha.symm.trans he)
    obtain ⟨events, hhalt⟩ := exists_halt_of_dispatch hp' hsteps ha'
    rw [hcontext] at hhalt
    exact .inr ⟨_, events, hview, hhalt⟩
  | exempt ha hexcused =>
    obtain rfl := Except.error.inj (ha.symm.trans he)
    exact .inl hexcused

variable (r) in
theorem ends_of_error {layer layer' : Nat} {s s' : State} (h : r.Mirrors s s') (hs : Sound t s)
    (hlive : r.live s.cursor) (hsteps : s'.steps ≤ maxSteps) {p : Piece}
    (hp : t.pieces[s.cursor]? = some p) {e : RenderError}
    (he : (dispatch inclusion layer t.directives s p.directive).flow = .error e) :
    r.excused e ∨ ∃ e', r.view e' = r.view e ∧ Ends inclusion' layer' t' s'
      (.error e', (dispatch inclusion layer t.directives s p.directive).state.context) := by
  rcases r.exists_halt_of_error h hs hlive hsteps hp he with
    hexcused | ⟨e', events, hview, hhalt⟩
  · exact .inl hexcused
  · exact .inr ⟨e', hview, .halt hhalt⟩

/-- What the other render comes to from a state that is `k` steps ahead, when the
one render comes to an outcome: it runs out of steps, fails with the same error,
or gets as far as the end of the one template. -/
inductive Comes (layer' k : Nat) (s' : State) : Outcome → Prop
  | limit {o : Outcome} (hk : 0 < k) {context : Context} (hend : Ends inclusion' layer' t' s'
      (.error (.stepLimitExceeded maxSteps), context)) : Comes layer' k s' o
  | fail {e e' : RenderError} {context : Context} (hview : r.view e' = r.view e)
    (hend : Ends inclusion' layer' t' s' (.error e', context)) :
    Comes layer' k s' (.error e, context)
  | exempt {e : RenderError} {context : Context} (he : r.excused e) :
    Comes layer' k s' (.error e, context)
  | finish {last last' : State} (hsound : Sound t last) (hcursor : last.cursor = t.pieces.length)
    (hreach : Reaches inclusion' layer' t' s' last') (hlast : r.Mirrors last last')
    (hsteps : last'.steps = last.steps + k) : Comes layer' k s' (Machine.finish last).outcome

/-- A turn of the other render puts off what it comes to. -/
theorem Comes.of_leads {layer' k : Nat} {s s' : State} {o : Outcome}
    (hlead : Leads inclusion' layer' t' s s') (h : r.Comes layer' k s' o) :
    r.Comes layer' k s o := by
  cases h with
  | limit hk hend => exact .limit hk (hlead.reaches.ends hend)
  | fail hview hend => exact .fail hview (hlead.reaches.ends hend)
  | exempt he => exact .exempt he
  | finish hsound hcursor hreach hlast hsteps =>
    exact .finish hsound hcursor (hlead.reaches.trans hreach) hlast hsteps

variable (r) in
/-- **A render is replayed to its end.** -/
theorem comes {layer layer' k : Nat} (hlive : ∀ i, r.live i) {s s' : State} {o : Outcome}
    (h : r.Mirrors s s') (hs : Sound t s) (hsteps : s'.steps = s.steps + k)
    (hend : Ends inclusion layer t s o) : r.Comes layer' k s' o := by
  induction hend generalizing s' with
  | @go s s₁ events o hgo _ ih =>
    obtain ⟨p, hp, hle, hmove⟩ := move_of_turn hgo
    by_cases hle' : s'.steps ≤ maxSteps
    · obtain ⟨s₁', hlead, h₁, hsteps₁⟩ := r.leads h hs (hlive _) hle' ⟨events, hgo⟩
      exact .of_leads hlead (ih h₁ (hs.move hp hmove) (by omega))
    · obtain ⟨p', hp', -⟩ := r.piece hp (hlive _)
      rw [← h.cursor] at hp'
      obtain ⟨hlt, -⟩ := List.getElem?_eq_some_iff.1 hp'
      exact .limit (by omega) (ends_of_maxSteps_lt hlt (by omega))
  | @halt s _ hhalt =>
    rcases outcome_of_halt hhalt with ⟨hp, ho⟩ | ⟨p, hp, hcase⟩
    · rw [ho]
      have hcursor : s.cursor = t.pieces.length :=
        Nat.le_antisymm hs.cursor_le (List.getElem?_eq_none_iff.1 hp)
      exact .finish hs hcursor (.refl _) h hsteps
    · obtain ⟨p', hp', -⟩ := r.piece hp (hlive _)
      rw [← h.cursor] at hp'
      obtain ⟨hlt, -⟩ := List.getElem?_eq_some_iff.1 hp'
      by_cases hle' : s'.steps ≤ maxSteps
      · rcases hcase with ⟨hlimit, -⟩ | ⟨-, e, he, ho⟩
        · omega
        · rw [ho]
          rcases r.ends_of_error h hs (hlive _) hle' hp he with hexcused | ⟨e', hview, hend⟩
          · exact .exempt hexcused
          · exact .fail hview hend
      · have hend' : Ends inclusion' layer' t' s'
            (.error (.stepLimitExceeded maxSteps), s'.context) :=
          ends_of_maxSteps_lt hlt (Nat.lt_of_not_le hle')
        rcases hcase with ⟨-, ho⟩ | ⟨hle, -⟩
        · rw [ho, ← h.context]
          exact .fail rfl hend'
        · exact .limit (by omega) hend'

variable (r) in
/-- **A render that succeeds brings the other to the end of the template**, with
the loops that were open around it, unless the other is ahead and its steps run
out. -/
theorem reaches_of_ok {layer layer' k : Nat} (hlive : ∀ i, r.live i) {s s' : State}
    {text : String} {context : Context} (h : r.Mirrors s s') (hs : Sound t s)
    (hsteps : s'.steps = s.steps + k) (hend : Ends inclusion layer t s (.ok text, context)) :
    (0 < k ∧ ∃ c, Ends inclusion' layer' t' s' (.error (.stepLimitExceeded maxSteps), c)) ∨
      ∃ last', Reaches inclusion' layer' t' s' last' ∧
        last'.cursor = r.place t.pieces.length ∧ last'.loops = r.held ∧
        last'.output = r.before ++ (text ++ String.ofList (r.extra t.pieces.length)) ∧
        last'.context = context := by
  have hcomes : r.Comes layer' k s' (.ok text, context) := r.comes hlive h hs hsteps hend
  generalize ho : ((.ok text, context) : Outcome) = o at hcomes
  cases hcomes with
  | limit hk hend => exact .inl ⟨hk, _, hend⟩
  | fail => cases ho
  | exempt => cases ho
  | @finish last last' _ hcursor hreach hlast _ =>
    obtain ⟨hloops, rfl, rfl⟩ := finish_eq_ok ho.symm
    obtain ⟨moved, hmoved, hforall⟩ := hlast.loops
    rw [hloops] at hforall
    cases hforall
    refine .inr ⟨last', hreach, ?_, hmoved, ?_, hlast.context⟩
    · rw [hlast.cursor, hcursor]
    · rw [hlast.output, hcursor]

/-- At the end of both templates the same is missing, or nothing. -/
theorem Mirrors.finish {s s' : State} (h : r.Mirrors s s') (hheld : r.held = [])
    (hextra : r.extra s.cursor = []) :
    Agree r.view (fun _ => False) (fun text text' => text' = r.before ++ text)
        (Machine.finish s).result (Machine.finish s').result ∧
      (Machine.finish s').context = (Machine.finish s).context := by
  obtain ⟨moved, hmoved, hloops⟩ := h.loops
  have hout : s'.output = r.before ++ (s.output ++ String.ofList (r.extra s.cursor)) := h.output
  rw [hextra, String.ofList_nil, String.append_empty] at hout
  rw [hheld, List.append_nil] at hmoved
  unfold Machine.finish
  rw [hmoved]
  cases hloop : s.loops with
  | nil =>
    rw [hloop] at hloops
    cases hloops
    exact ⟨.ok hout, h.context⟩
  | cons f outer =>
    rw [hloop] at hloops
    obtain ⟨f', outer', hf, -, rfl⟩ := List.forall₂_cons_left_iff.1 hloops
    refine ⟨.error ?_, h.context⟩
    rw [hf.opener.keyword]
    exact hf.opener.view_line (.unterminatedBlock f.opener.keyword) fun _ _ => rfl

end Replay

end Machine

end BracketTemplate
