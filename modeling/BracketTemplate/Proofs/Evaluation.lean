/-
# What a well nested text means

An outline is evaluated by recursion on it, from left to right.  What is handed
on is the number of steps taken, the output and the context.

| part | checks | steps |
| --- | --- | --- |
| leaf | before it | one |
| condition that holds | before it and before its end | one, its body, one |
| condition that does not hold | before it | one |
| loop | before it and at the end of every iteration | one for every item, its body as often, one |

A check fails when too many steps have been taken.  A loop over no items takes
one step and binds nothing.

A render knows nothing of outlines: it goes through the pieces with a cursor,
skips ahead, goes back and keeps the open loops on a stack.  In a well nested
text it comes to what is evaluated (`behaves_evaluate`,
`outcome_renderAt_of_wellNested`).
-/

import BracketTemplate.Proofs.Layers
import BracketTemplate.Proofs.Outline

namespace BracketTemplate

/-- How far an evaluation has come. -/
structure Progress where
  steps : Nat
  output : String
  context : Context

/-- What a part is evaluated to, or why it fails and the context that is left. -/
abbrev Evaluation (α : Type) := Except (RenderError × Context) α

namespace Progress

/-- Prints a text. -/
def emit (p : Progress) (text : String) : Progress := { p with output := p.output ++ text }

/-- Takes a step to the literal text behind a directive. -/
def step (p : Progress) (literal : List Char) : Progress :=
  { p.emit (String.ofList literal) with steps := p.steps + 1 }

/-- Stores an item under the name that a loop binds, if it binds one. -/
def bind (p : Progress) (binding? : Option String) (item : Value) : Progress :=
  match binding? with
  | some name => { p with context := p.context.set name item }
  | none => p

/-- Fails after too many steps. -/
def ready (p : Progress) : Evaluation Unit :=
  if Machine.maxSteps < p.steps then
    .error (.stepLimitExceeded Machine.maxSteps, p.context)
  else .ok ()

/-- A part that may fail and leaves the context as it is. -/
def attempt {α : Type} (p : Progress) (x : Except RenderError α) : Evaluation α :=
  x.mapError (·, p.context)

end Progress

namespace Outline

/-- Whether a condition holds. -/
def holds (d : Directive) (context : Context) : Except RenderError Bool := do
  let name ← d.requiredArgument 0
  let value ← Variable.read context name
  return value.isTruthy

/-- The name that a loop binds and its items. -/
def loopOver (d : Directive) (context : Context) :
    Except RenderError (Option String × List Value) := do
  let name ← d.requiredArgument 0
  let binding? ← (d.argument? 1).mapM Variable.bindingName
  let items ← Variable.readItems context name d.line
  return (binding?, items)

/-- What a render of a component prints and stores. -/
def takeOver (p : Progress) (r : Run) : Evaluation Progress :=
  match r.result with
  | .ok text => .ok { p.emit text with context := r.context }
  | .error e => .error (e, r.context)

/-- What a leaf prints and stores. -/
def evaluateLeaf (inclusion : Inclusion) (d : Directive) (p : Progress) : Evaluation Progress :=
  match d.kind with
  | .component => do
    let name ← p.attempt (d.requiredArgument 0)
    takeOver p (inclusion name p.context)
  | .html => do
    let text ← p.attempt (d.requiredArgument 0 >>= Variable.print p.context)
    return p.emit text
  | _ => do
    let text ← p.attempt ((Variable.print p.context d.keyword).map Text.escapeAngles)
    return p.emit text

/-- Goes through the items of a loop: each is bound, a step is taken to the
literal text behind the loop directive, and the body is evaluated. -/
def iterate (body : Progress → Evaluation Progress) (binding? : Option String)
    (literal : List Char) (items : List Value) (p : Progress) : Evaluation Progress :=
  items.foldlM (fun p item => do
    let p ← body ((p.bind binding? item).step literal)
    p.ready
    return p) p

theorem iterate_cons (body : Progress → Evaluation Progress) (binding? : Option String)
    (literal : List Char) (item : Value) (items : List Value) (p : Progress) :
    iterate body binding? literal (item :: items) p =
      body ((p.bind binding? item).step literal) >>= fun q =>
        q.ready >>= fun _ => iterate body binding? literal items q := by
  unfold iterate
  rw [List.foldlM_cons]
  cases body ((p.bind binding? item).step literal) with
  | error e => rfl
  | ok q =>
    change (q.ready >>= fun _ => pure q) >>= _ = q.ready >>= _
    cases q.ready <;> rfl

/-- What an outline prints and stores. -/
def evaluate (inclusion : Inclusion) : Outline → Progress → Evaluation Progress
  | nil, p => .ok p
  | leaf piece _ rest, p => do
    p.ready
    let p ← evaluateLeaf inclusion piece.directive p
    rest.evaluate inclusion (p.step piece.literal)
  | block .condition opener _ body closer _ rest, p => do
    p.ready
    if ← p.attempt (holds opener.directive p.context) then
      let p ← body.evaluate inclusion (p.step opener.literal)
      p.ready
      rest.evaluate inclusion (p.step closer.literal)
    else rest.evaluate inclusion (p.step closer.literal)
  | block .loop opener _ body closer _ rest, p => do
    p.ready
    let (binding?, items) ← p.attempt (loopOver opener.directive p.context)
    let p ← iterate (body.evaluate inclusion) binding? opener.literal items p
    rest.evaluate inclusion (p.step closer.literal)

/-- What the evaluation of an outline behind a literal text comes to. -/
def outcome (inclusion : Inclusion) (o : Outline) (lead : List Char) (context : Context) :
    Outcome :=
  match o.evaluate inclusion ⟨0, String.ofList lead, context⟩ with
  | .ok p => (.ok p.output, p.context)
  | .error (e, context) => (.error e, context)

end Outline

namespace Machine

/-- The state of a render that has come as far as an evaluation. -/
def standing (cursor : Nat) (loops : List Frame) (p : Progress) : State :=
  ⟨cursor, p.steps, loops, p.output, p.context⟩

@[simp] theorem bind_standing (cursor : Nat) (loops : List Frame) (p : Progress)
    (binding? : Option String) (item : Value) :
    (standing cursor loops p).bind binding? item =
      standing cursor loops (p.bind binding? item) := by
  cases binding? <;> rfl

@[simp] theorem bind_progress_steps (p : Progress) (binding? : Option String) (item : Value) :
    (p.bind binding? item).steps = p.steps := by
  cases binding? <;> rfl

/-- Whether a render does from a state what is evaluated: it comes to the state
that goes with the progress, or fails with the error. -/
def Behaves (inclusion : Inclusion) (layer : Nat) (t : Template) (s : State)
    (x : Evaluation Progress) (next : Progress → State) : Prop :=
  match x with
  | .ok p => Reaches inclusion layer t s (next p)
  | .error (e, context) => Ends inclusion layer t s (.error e, context)

variable {inclusion : Inclusion} {layer : Nat} {t : Template} {α : Type}
  {next mid : Progress → State}

/-- What a state does, a state that leads to it does as well. -/
theorem Reaches.behaves {s s' : State} {x : Evaluation Progress}
    (h : Reaches inclusion layer t s s') (h' : Behaves inclusion layer t s' x next) :
    Behaves inclusion layer t s x next := by
  cases x with
  | ok p => exact h.trans h'
  | error e => exact h.ends h'

/-- One part after another. -/
theorem Behaves.bind {s : State} {x : Evaluation Progress}
    {f : Progress → Evaluation Progress} (h : Behaves inclusion layer t s x mid)
    (hf : ∀ p, Behaves inclusion layer t (mid p) (f p) next) :
    Behaves inclusion layer t s (x >>= f) next := by
  cases x with
  | ok p => exact h.behaves (hf p)
  | error e => exact h

/-- A part that leaves the context fails in the render as in the evaluation. -/
theorem behaves_attempt {cursor : Nat} {loops : List Frame} {p : Progress}
    {x : Except RenderError α} {f : α → Evaluation Progress}
    (herror : ∀ e, x = .error e →
      Ends inclusion layer t (standing cursor loops p) (.error e, p.context))
    (hok : ∀ a, x = .ok a → Behaves inclusion layer t (standing cursor loops p) (f a) next) :
    Behaves inclusion layer t (standing cursor loops p) (p.attempt x >>= f) next := by
  cases x with
  | ok a => exact hok a rfl
  | error e => exact herror e rfl

/-- A check fails in the render as in the evaluation. -/
theorem behaves_ready {cursor : Nat} {loops : List Frame} {p : Progress}
    {f : Unit → Evaluation Progress} (hcursor : cursor < t.pieces.length)
    (hok : p.steps ≤ maxSteps → Behaves inclusion layer t (standing cursor loops p) (f ()) next) :
    Behaves inclusion layer t (standing cursor loops p) (p.ready >>= f) next := by
  unfold Progress.ready
  by_cases hsteps : maxSteps < p.steps
  · rw [if_pos hsteps]
    exact ends_of_maxSteps_lt (s := standing cursor loops p) hcursor hsteps
  · rw [if_neg hsteps]
    exact hok (Nat.le_of_not_lt hsteps)

/-- A step to the literal text behind a directive. -/
theorem advance_standing {cursor index : Nat} {loops : List Frame} {p : Progress} {piece : Piece}
    (hp : t.pieces[index]? = some piece) :
    advance t (standing cursor loops p) index =
      standing (index + 1) loops (p.step piece.literal) := by
  unfold advance
  rw [hp]
  rfl

/-- A directive that goes on takes a step to the text behind it. -/
theorem leads_standing {cursor : Nat} {loops loops' : List Frame} {p q : Progress} {piece : Piece}
    {events : List Event} (hp : t.pieces[cursor]? = some piece) (hsteps : p.steps ≤ maxSteps)
    (h : dispatch inclusion layer t.directives (standing cursor loops p) piece.directive =
      ⟨.ok .next, standing cursor loops' q, events⟩) :
    Leads inclusion layer t (standing cursor loops p)
      (standing (cursor + 1) loops' (q.step piece.literal)) := by
  have hlead : Leads inclusion layer t (standing cursor loops p) _ :=
    leads_of_dispatch hp hsteps (congrArg Dispatch.flow h)
  rw [h] at hlead
  rwa [← advance_standing hp]

/-- A directive that skips a block takes a step to the text behind the block. -/
theorem leads_standing_skip {cursor k : Nat} {loops : List Frame} {p : Progress}
    {piece closer : Piece} {events : List Event} (hp : t.pieces[cursor]? = some piece)
    (hcloser : t.pieces[k]? = some closer) (hsteps : p.steps ≤ maxSteps)
    (h : dispatch inclusion layer t.directives (standing cursor loops p) piece.directive =
      ⟨.ok (.skipTo k), standing cursor loops p, events⟩) :
    Leads inclusion layer t (standing cursor loops p)
      (standing (k + 1) loops (p.step closer.literal)) := by
  have hlead : Leads inclusion layer t (standing cursor loops p) _ :=
    leads_of_dispatch hp hsteps (congrArg Dispatch.flow h)
  rw [h] at hlead
  rwa [← advance_standing hcloser]

/-- A directive that fails ends the render. -/
theorem ends_standing {cursor : Nat} {loops : List Frame} {p : Progress} {piece : Piece}
    {e : RenderError} {s : State} {events : List Event} (hp : t.pieces[cursor]? = some piece)
    (hsteps : p.steps ≤ maxSteps)
    (h : dispatch inclusion layer t.directives (standing cursor loops p) piece.directive =
      ⟨.error e, s, events⟩) :
    Ends inclusion layer t (standing cursor loops p) (.error e, s.context) := by
  have hend : Ends inclusion layer t (standing cursor loops p) _ :=
    ends_of_dispatch hp hsteps (congrArg Dispatch.flow h)
  rwa [h] at hend

/-- A directive that prints a text or fails. -/
theorem behaves_print {cursor : Nat} {loops : List Frame} {p : Progress} {piece : Piece}
    (hp : t.pieces[cursor]? = some piece) (hsteps : p.steps ≤ maxSteps)
    {x : Except RenderError String}
    (h : dispatch inclusion layer t.directives (standing cursor loops p) piece.directive =
      .print (standing cursor loops p) x) :
    Behaves inclusion layer t (standing cursor loops p)
      (p.attempt x >>= fun text => pure (p.emit text))
      fun q => standing (cursor + 1) loops (q.step piece.literal) := by
  refine behaves_attempt ?_ ?_
  · rintro e rfl
    exact ends_standing hp hsteps h
  · rintro text rfl
    exact (leads_standing hp hsteps h).reaches

/-- **A leaf does what it is evaluated to.** -/
theorem behaves_leaf {cursor : Nat} {loops : List Frame} {p : Progress} {piece : Piece}
    (hp : t.pieces[cursor]? = some piece) (hleaf : piece.directive.IsLeaf)
    (hsteps : p.steps ≤ maxSteps) :
    Behaves inclusion layer t (standing cursor loops p)
      (Outline.evaluateLeaf inclusion piece.directive p)
      fun q => standing (cursor + 1) loops (q.step piece.literal) := by
  unfold Outline.evaluateLeaf
  rcases hleaf with hkind | hkind | hkind <;> rw [hkind]
  · have hdispatch : dispatch inclusion layer t.directives (standing cursor loops p)
        piece.directive = includeComponent inclusion (standing cursor loops p) piece.directive := by
      unfold dispatch
      rw [hkind]
    unfold includeComponent at hdispatch
    refine behaves_attempt ?_ ?_
    · intro e he
      rw [he] at hdispatch
      exact ends_standing hp hsteps hdispatch
    · intro name hname
      rw [hname] at hdispatch
      dsimp only [takeOver] at hdispatch
      unfold Outline.takeOver
      have hcontext : (standing cursor loops p).context = p.context := rfl
      rw [hcontext] at hdispatch
      cases hresult : (inclusion name p.context).result with
      | error e =>
        rw [hresult] at hdispatch
        exact ends_standing hp hsteps hdispatch
      | ok text =>
        rw [hresult] at hdispatch
        exact (leads_standing hp hsteps hdispatch).reaches
  · refine behaves_print hp hsteps ?_
    unfold dispatch
    rw [hkind]
    rfl
  · refine behaves_print hp hsteps ?_
    unfold dispatch
    rw [hkind]
    rfl

/-- Where a condition leads is whether it holds. -/
theorem conditionFlow_eq_map_holds {directives : List Directive} {d : Directive} {index k : Nat}
    (hk : Block.condition.close? directives index = some k) (context : Context) :
    conditionFlow directives d index context =
      (Outline.holds d context).map fun b => if b then .next else .skipTo k := by
  unfold conditionFlow Outline.holds
  rw [closing_eq_ok.2 hk]
  cases d.requiredArgument 0 with
  | error e => rfl
  | ok name =>
    change (Variable.read context name >>= fun value => _) =
      Except.map _ (Variable.read context name >>= fun value => _)
    cases Variable.read context name <;> rfl

/-- The header of a loop is what it runs over. -/
theorem loopHeader_eq_map_loopOver {directives : List Directive} {d : Directive} {index k : Nat}
    (hk : Block.loop.close? directives index = some k) (context : Context) :
    loopHeader directives d index context =
      (Outline.loopOver d context).map fun a => (a.1, k, a.2) := by
  unfold loopHeader Outline.loopOver
  rw [closing_eq_ok.2 hk]
  cases d.requiredArgument 0 with
  | error e => rfl
  | ok name =>
    change ((d.argument? 1).mapM Variable.bindingName >>= fun binding? => _) =
      Except.map _ ((d.argument? 1).mapM Variable.bindingName >>= fun binding? => _)
    cases (d.argument? 1).mapM Variable.bindingName with
    | error e => rfl
    | ok binding? =>
      change (Variable.readItems context name d.line >>= fun items => _) =
        Except.map _ (Variable.readItems context name d.line >>= fun items => _)
      cases Variable.readItems context name d.line <;> rfl

/-- The places of a block: its opening directive, and its end as it is found. -/
structure BlockAt (t : Template) (b : Block) (i k : Nat) (opener closer : Piece) : Prop where
  opener_at : t.pieces[i]? = some opener
  opener_kind : opener.directive.kind = b.opener
  closer_at : t.pieces[k]? = some closer
  closer_kind : closer.directive.kind = b.closer
  close : b.close? t.directives i = some k

variable {i k : Nat} {opener closer : Piece} {loops : List Frame} {p : Progress}
  {body rest : Progress → Evaluation Progress}

/-- **A condition does what it is evaluated to**, if its body and what comes
behind it do. -/
theorem behaves_condition (h : BlockAt t .condition i k opener closer) (hsteps : p.steps ≤ maxSteps)
    (hbody : ∀ q, Behaves inclusion layer t (standing (i + 1) loops q) (body q) (standing k loops))
    (hrest : ∀ q, Behaves inclusion layer t (standing (k + 1) loops q) (rest q) next) :
    Behaves inclusion layer t (standing i loops p)
      (p.attempt (Outline.holds opener.directive p.context) >>= fun b =>
        if b then
          body (p.step opener.literal) >>= fun q =>
            q.ready >>= fun _ => rest (q.step closer.literal)
        else rest (p.step closer.literal)) next := by
  have hflow : conditionFlow t.directives opener.directive i p.context =
      (Outline.holds opener.directive p.context).map fun b =>
        if b then Flow.next else .skipTo k :=
    conditionFlow_eq_map_holds h.close p.context
  refine behaves_attempt ?_ ?_
  · intro e he
    have hopener : dispatch inclusion layer t.directives (standing i loops p) opener.directive =
        .fail (standing i loops p) e := by
      rw [he] at hflow
      unfold dispatch
      rw [h.opener_kind]
      dsimp only [standing]
      rw [hflow]
      rfl
    exact ends_standing h.opener_at hsteps hopener
  · intro b hb
    have hopener : dispatch inclusion layer t.directives (standing i loops p) opener.directive =
        ⟨.ok (if b then .next else .skipTo k), standing i loops p, []⟩ := by
      rw [hb] at hflow
      unfold dispatch
      rw [h.opener_kind]
      dsimp only [standing]
      rw [hflow]
      rfl
    cases b with
    | false =>
      exact (leads_standing_skip h.opener_at h.closer_at hsteps hopener).reaches.behaves (hrest _)
    | true =>
      refine (leads_standing h.opener_at hsteps hopener).reaches.behaves
        ((hbody _).bind fun q => ?_)
      obtain ⟨hk, -⟩ := List.getElem?_eq_some_iff.1 h.closer_at
      refine behaves_ready hk fun hready => ?_
      have hcloser : dispatch inclusion layer t.directives (standing k loops q)
          closer.directive = ⟨.ok .next, standing k loops q, []⟩ := by
        unfold dispatch
        rw [h.closer_kind]
        rfl
      exact (leads_standing h.closer_at hready hcloser).reaches.behaves (hrest _)

/-- The end of an iteration goes back to the loop, and the loop gone back to is
passed with the next item bound. -/
theorem reaches_next_item (h : BlockAt t .loop i k opener closer) {f : Frame} (hf : f.origin = i)
    {item : Value} (hitem : f.items[f.current + 1]? = some item) (hsteps : p.steps ≤ maxSteps) :
    Reaches inclusion layer t (standing k (f :: loops) p)
      (standing (i + 1) ({ f with current := f.current + 1 } :: loops)
        ((p.bind f.binding? item).step opener.literal)) := by
  have hback : Leads inclusion layer t (standing k (f :: loops) p)
      (standing i ({ f with current := f.current + 1 } :: loops) (p.bind f.binding? item)) := by
    have hcloser : ∃ events, dispatch inclusion layer t.directives (standing k (f :: loops) p)
        closer.directive = ⟨.ok (.rewind f.origin),
          standing k ({ f with current := f.current + 1 } :: loops) (p.bind f.binding? item),
          events⟩ := by
      unfold dispatch
      rw [h.closer_kind]
      change ∃ events, closeLoop layer (standing k (f :: loops) p) closer.directive = _
      rw [closeLoop, show (standing k (f :: loops) p).loops = f :: loops from rfl]
      dsimp only
      rw [hitem]
      dsimp only
      rw [bind_standing]
      exact ⟨_, rfl⟩
    obtain ⟨events, hcloser⟩ := hcloser
    have hlead : Leads inclusion layer t (standing k (f :: loops) p) _ :=
      leads_of_dispatch h.closer_at hsteps (congrArg Dispatch.flow hcloser)
    rw [hcloser] at hlead
    rwa [← hf]
  have hpass : Leads inclusion layer t
      (standing i ({ f with current := f.current + 1 } :: loops) (p.bind f.binding? item))
      (standing (i + 1) ({ f with current := f.current + 1 } :: loops)
        ((p.bind f.binding? item).step opener.literal)) := by
    have hentry : (standing i ({ f with current := f.current + 1 } :: loops)
        (p.bind f.binding? item)).isReentry = true := isReentry_iff.2 ⟨_, loops, rfl, hf⟩
    have hopener : dispatch inclusion layer t.directives
        (standing i ({ f with current := f.current + 1 } :: loops) (p.bind f.binding? item))
        opener.directive = ⟨.ok .next, standing i ({ f with current := f.current + 1 } :: loops)
          (p.bind f.binding? item), []⟩ := by
      unfold dispatch
      rw [h.opener_kind]
      exact if_pos hentry
    exact leads_standing h.opener_at (by rwa [bind_progress_steps]) hopener
  exact hback.reaches.trans hpass.reaches

/-- The end of the last iteration leaves the loop. -/
theorem reaches_behind_loop (h : BlockAt t .loop i k opener closer) {f : Frame}
    (hitem : f.items[f.current + 1]? = none) (hsteps : p.steps ≤ maxSteps) :
    Reaches inclusion layer t (standing k (f :: loops) p)
      (standing (k + 1) loops (p.step closer.literal)) := by
  have hcloser : dispatch inclusion layer t.directives (standing k (f :: loops) p)
      closer.directive = ⟨.ok .next, standing k loops p, [⟨layer, .closed f.origin⟩]⟩ := by
    unfold dispatch
    rw [h.closer_kind]
    change closeLoop layer (standing k (f :: loops) p) closer.directive = _
    rw [closeLoop, show (standing k (f :: loops) p).loops = f :: loops from rfl]
    dsimp only
    rw [hitem]
    rfl
  exact (leads_standing h.closer_at hsteps hcloser).reaches

/-- **A loop does what its iterations are evaluated to**, from the first of the
items that are left, if its body does. -/
theorem behaves_iterate (h : BlockAt t .loop i k opener closer) {d : Directive}
    {binding? : Option String} {items : List Value}
    (hbody : ∀ current q, Behaves inclusion layer t
      (standing (i + 1) (⟨i, d, binding?, items, current⟩ :: loops) q) (body q)
      (standing k (⟨i, d, binding?, items, current⟩ :: loops)))
    {done left : List Value} {item : Value} (hitems : items = done ++ item :: left) (p : Progress) :
    Behaves inclusion layer t
      (standing (i + 1) (⟨i, d, binding?, items, done.length⟩ :: loops)
        ((p.bind binding? item).step opener.literal))
      (Outline.iterate body binding? opener.literal (item :: left) p)
      fun q => standing (k + 1) loops (q.step closer.literal) := by
  obtain ⟨hk, -⟩ := List.getElem?_eq_some_iff.1 h.closer_at
  induction left generalizing done item p with
  | nil =>
    rw [Outline.iterate_cons]
    refine (hbody _ _).bind fun q => behaves_ready hk fun hready => ?_
    have hitem : items[done.length + 1]? = none := by
      rw [hitems, List.getElem?_eq_none_iff, List.length_append]
      exact Nat.le_refl _
    exact reaches_behind_loop h hitem hready
  | cons item' left ih =>
    rw [Outline.iterate_cons]
    refine (hbody _ _).bind fun q => behaves_ready hk fun hready => ?_
    have hitem : items[done.length + 1]? = some item' := by
      rw [hitems, List.getElem?_append_right (Nat.le_add_right _ 1), Nat.add_sub_cancel_left]
      rfl
    have hitems' : items = done ++ [item] ++ item' :: left := by
      rw [hitems, List.append_assoc]
      rfl
    have hlength : (done ++ [item]).length = done.length + 1 := List.length_append
    have hnext := ih hitems' q
    rw [hlength] at hnext
    exact Reaches.behaves (reaches_next_item h rfl hitem hready) hnext

/-- **A loop does what it is evaluated to**, if its body and what comes behind it
do. -/
theorem behaves_loop (h : BlockAt t .loop i k opener closer) (hsteps : p.steps ≤ maxSteps)
    (hentry : (standing i loops p).isReentry = false)
    (hbody : ∀ f q, f.origin = i → Behaves inclusion layer t (standing (i + 1) (f :: loops) q)
      (body q) (standing k (f :: loops)))
    (hrest : ∀ q, Behaves inclusion layer t (standing (k + 1) loops q) (rest q) next) :
    Behaves inclusion layer t (standing i loops p)
      (p.attempt (Outline.loopOver opener.directive p.context) >>= fun a =>
        Outline.iterate body a.1 opener.literal a.2 p >>= fun q =>
          rest (q.step closer.literal)) next := by
  have hopener : dispatch inclusion layer t.directives (standing i loops p) opener.directive =
      openLoop layer t.directives (standing i loops p) opener.directive := by
    unfold dispatch
    rw [h.opener_kind]
    exact if_neg (by rw [hentry]; exact Bool.false_ne_true)
  have hheader := loopHeader_eq_map_loopOver (d := opener.directive) h.close p.context
  unfold openLoop at hopener
  rw [show loopHeader t.directives opener.directive (standing i loops p).cursor
    (standing i loops p).context = _ from hheader] at hopener
  refine behaves_attempt ?_ ?_
  · intro e he
    rw [he] at hopener
    exact ends_standing h.opener_at hsteps hopener
  · rintro ⟨binding?, items⟩ ha
    rw [ha] at hopener
    cases items with
    | nil =>
      exact (leads_standing_skip h.opener_at h.closer_at hsteps hopener).reaches.behaves (hrest _)
    | cons first items =>
      dsimp only [Except.map] at hopener
      rw [bind_standing] at hopener
      have hfirst : Leads inclusion layer t (standing i loops p)
          (standing (i + 1) (⟨i, opener.directive, binding?, first :: items, 0⟩ :: loops)
            ((p.bind binding? first).step opener.literal)) :=
        leads_standing h.opener_at hsteps hopener
      have hitems : first :: items = [] ++ first :: items := rfl
      have hiterate := behaves_iterate h
        (fun current q => hbody ⟨i, opener.directive, binding?, first :: items, current⟩ q rfl)
        hitems p
      exact hfirst.reaches.behaves (hiterate.bind fun q => hrest _)

/-- The directive behind the first ones. -/
theorem getElem?_pieces {before after : List Piece} {piece : Piece}
    (ht : t.pieces = before ++ piece :: after) {index : Nat} (hindex : before.length = index) :
    t.pieces[index]? = some piece := by
  have hlt : index < t.pieces.length := by
    rw [ht, List.length_append, List.length_cons]
    omega
  exact List.getElem?_eq_some_iff.2 ⟨hlt, List.getElem_of_append ht hindex⟩

/-- Where a block of an outline stands. -/
theorem blockAt_of_pieces {b : Block} {body : Outline} {before after : List Piece}
    (ho : opener.directive.kind = b.opener) (hc : closer.directive.kind = b.closer)
    (ht : t.pieces = before ++ opener :: (body.pieces ++ closer :: after)) :
    BlockAt t b before.length (before.length + 1 + body.pieces.length) opener closer where
  opener_at := getElem?_pieces ht rfl
  opener_kind := ho
  closer_at := by
    have hlist : t.pieces = (before ++ opener :: body.pieces) ++ closer :: after := by
      rw [ht]
      simp only [List.append_assoc, List.cons_append]
    have hlength : (before ++ opener :: body.pieces).length =
        before.length + 1 + body.pieces.length := by
      rw [List.length_append, List.length_cons]
      omega
    exact getElem?_pieces hlist hlength
  closer_kind := hc
  close := by
    have hdirectives : t.directives = before.map (·.directive) ++ opener.directive ::
        (body.directives ++ closer.directive :: after.map (·.directive)) := by
      simp [Template.directives, Outline.directives, ht]
    have hclose : b.close? (before.map (·.directive) ++ opener.directive ::
        (body.directives ++ closer.directive :: after.map (·.directive)))
        (before.map (·.directive)).length = some _ := Outline.close?_block b hc body
    rwa [← hdirectives, List.length_map] at hclose

/-- **A render does what an outline in its template is evaluated to**, from where
the outline starts, if the loops that are open are those of directives in front. -/
theorem behaves_evaluate (o : Outline) {before after : List Piece} {start : Nat}
    (ht : t.pieces = before ++ (o.pieces ++ after)) (hstart : before.length = start)
    {loops : List Frame} (hloops : ∀ f ∈ loops, f.origin < start) (p : Progress) :
    Behaves inclusion layer t (standing start loops p) (o.evaluate inclusion p)
      (standing (start + o.pieces.length) loops) := by
  induction o generalizing before after start loops p with
  | nil => exact .refl _
  | leaf piece hleaf rest ih =>
    have hp : t.pieces[start]? = some piece := getElem?_pieces ht hstart
    obtain ⟨hlt, -⟩ := List.getElem?_eq_some_iff.1 hp
    rw [Outline.evaluate]
    refine behaves_ready hlt fun hready => (behaves_leaf hp hleaf hready).bind fun q => ?_
    have hsplit : t.pieces = (before ++ [piece]) ++ (rest.pieces ++ after) := by
      rw [ht, List.append_assoc]
      rfl
    have hlength : (before ++ [piece]).length = start + 1 := by
      rw [List.length_append, hstart]
      rfl
    have hend : start + 1 + rest.pieces.length =
        start + (Outline.leaf piece hleaf rest).pieces.length := by
      rw [Outline.pieces, List.length_cons]
      omega
    rw [← hend]
    exact ih hsplit hlength (fun f hf => Nat.lt_succ_of_lt (hloops f hf)) (q.step piece.literal)
  | block b opener ho body closer hc rest ihbody ihrest =>
    have ht' : t.pieces =
        before ++ opener :: (body.pieces ++ closer :: (rest.pieces ++ after)) := by
      simpa [Outline.pieces] using ht
    have hat : BlockAt t b start (start + 1 + body.pieces.length) opener closer :=
      hstart ▸ blockAt_of_pieces ho hc ht'
    obtain ⟨hlt, -⟩ := List.getElem?_eq_some_iff.1 hat.opener_at
    have hbody : ∀ {loops : List Frame}, (∀ f ∈ loops, f.origin < start + 1) →
        ∀ q, Behaves inclusion layer t (standing (start + 1) loops q) (body.evaluate inclusion q)
          (standing (start + 1 + body.pieces.length) loops) := by
      intro loops hloops q
      have hsplit : t.pieces = (before ++ [opener]) ++
          (body.pieces ++ closer :: (rest.pieces ++ after)) := by
        rw [ht', List.append_assoc]
        rfl
      have hlength : (before ++ [opener]).length = start + 1 := by
        rw [List.length_append, hstart]
        rfl
      exact ihbody hsplit hlength hloops q
    have hrest : ∀ q, Behaves inclusion layer t
        (standing (start + 1 + body.pieces.length + 1) loops q) (rest.evaluate inclusion q)
        (standing (start + (Outline.block b opener ho body closer hc rest).pieces.length)
          loops) := by
      intro q
      have hsplit : t.pieces = (before ++ opener :: (body.pieces ++ [closer])) ++
          (rest.pieces ++ after) := by
        rw [ht']
        simp only [List.append_assoc, List.cons_append, List.nil_append]
      have hlength : (before ++ opener :: (body.pieces ++ [closer])).length =
          start + 1 + body.pieces.length + 1 := by
        simp only [List.length_append, List.length_cons, List.length_nil, hstart]
        omega
      have hend : start + 1 + body.pieces.length + 1 + rest.pieces.length =
          start + (Outline.block b opener ho body closer hc rest).pieces.length := by
        rw [Outline.pieces, List.length_cons, List.length_append, List.length_cons]
        omega
      rw [← hend]
      exact ihrest hsplit hlength (fun f hf => by have := hloops f hf; omega) q
    cases b with
    | condition =>
      rw [Outline.evaluate]
      exact behaves_ready hlt fun hready => behaves_condition hat hready
        (hbody fun f hf => Nat.lt_succ_of_lt (hloops f hf)) fun q => hrest _
    | loop =>
      rw [Outline.evaluate]
      refine behaves_ready hlt fun hready => behaves_loop hat hready ?_ ?_ fun q => hrest _
      · -- the loops that are open belong to directives in front
        refine Bool.eq_false_iff.2 fun hentry => ?_
        obtain ⟨f, outer, hf, horigin⟩ := isReentry_iff.1 hentry
        have hlt := hloops f (by rw [show loops = f :: outer from hf]; exact List.mem_cons_self)
        rw [horigin] at hlt
        exact Nat.lt_irrefl _ hlt
      · intro f q hf
        refine hbody (fun g hg => ?_) q
        rcases List.mem_cons.1 hg with rfl | hg
        · rw [hf]
          exact Nat.lt_succ_self _
        · exact Nat.lt_succ_of_lt (hloops g hg)

/-- A render of a template comes to what its outline comes to. -/
theorem ends_outcome {o : Outline} (ho : o.pieces = t.pieces) (context : Context) :
    Ends inclusion layer t (start t context) (o.outcome inclusion t.lead context) := by
  have ht : t.pieces = [] ++ (o.pieces ++ []) := by rw [ho, List.append_nil, List.nil_append]
  have hloops : ∀ f ∈ ([] : List Frame), f.origin < 0 := fun f hf => absurd hf List.not_mem_nil
  have h : Behaves inclusion layer t (start t context) _ _ :=
    behaves_evaluate o ht rfl hloops ⟨0, String.ofList t.lead, context⟩
  unfold Outline.outcome
  generalize o.evaluate inclusion ⟨0, String.ofList t.lead, context⟩ = x at h ⊢
  cases x with
  | error e => exact h
  | ok q =>
    have hreach : Reaches inclusion layer t (start t context)
        (standing (0 + o.pieces.length) [] q) := h
    refine hreach.ends (ends_finish (s := standing (0 + o.pieces.length) [] q) ?_)
    rw [← ho]
    exact Nat.le_of_eq (Nat.zero_add _).symm

end Machine

namespace Render

/-- **The render of a well nested text is its evaluation.**  The directives of the
text are those of an outline, and whatever the outline, the render comes to what
the outline is evaluated to behind the first literal text, with components
rendered one layer deeper: the same output or the same error, and the same
context. -/
theorem outcome_renderAt_of_wellNested (settings : Settings) (loader : Loader) (layer : Nat)
    {text : String} (h : WellNested text) (context : Context) :
    (∃ o : Outline, o.pieces = (Template.ofText text).pieces) ∧
      ∀ o : Outline, o.pieces = (Template.ofText text).pieces →
        (renderAt settings loader layer text context).outcome =
          o.outcome (componentAt settings loader layer) (Template.ofText text).lead context := by
  refine ⟨wellNested_iff.1 h, fun o ho => ?_⟩
  rw [renderAt_eq_run]
  exact Machine.run_outcome_of_ends (Machine.ends_outcome ho context)

/-- A condition in a loop, which holds for the second item only, and a component in
the condition. -/
theorem outcome_renderAt_of_wellNested_loop :
    WellNested "[[ for:xs:x ]][[ if:x ]]<[[ x ]][[ component:c ]]>[[ endif ]][[ endfor ]]" ∧
      ∃ o : Outline,
        o.pieces = (Template.ofText
          "[[ for:xs:x ]][[ if:x ]]<[[ x ]][[ component:c ]]>[[ endif ]][[ endfor ]]").pieces ∧
        o.outcome (componentAt {} (.ofSources [("components/c.html", "; [[ html:x ]]")]) 0) []
            ⟨[("xs", .sequence [.integer 0, .integer 7])]⟩ =
          (.ok "<7; 7>", ⟨[("x", .integer 7), ("xs", .sequence [.integer 0, .integer 7])]⟩) := by
  have hnested : WellNested
      "[[ for:xs:x ]][[ if:x ]]<[[ x ]][[ component:c ]]>[[ endif ]][[ endfor ]]" := by
    unfold WellNested
    decide +kernel
  obtain ⟨⟨o, ho⟩, hrender⟩ := outcome_renderAt_of_wellNested {}
    (.ofSources [("components/c.html", "; [[ html:x ]]")]) 0 hnested
    ⟨[("xs", .sequence [.integer 0, .integer 7])]⟩
  refine ⟨hnested, o, ho, ?_⟩
  have hlead : (Template.ofText
      "[[ for:xs:x ]][[ if:x ]]<[[ x ]][[ component:c ]]>[[ endif ]][[ endfor ]]").lead = [] := by
    decide +kernel
  rw [← hlead, ← hrender o ho]
  cbv

end Render

end BracketTemplate
