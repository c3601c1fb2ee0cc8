/-
# What a turn of a render can do

`Move` lists the ways in which one turn leads from a state to another, with what
each says about the directive at the cursor:

| move | the directive | the open loops |
| --- | --- | --- |
| `pass` | prints, includes, holds, ends a condition, or is a loop gone back to | as before |
| `skip` | opens a block that is left out | as before |
| `enter` | opens a loop over some items | one more |
| `turnBack` | ends an iteration that is not the last | the innermost one item on |
| `leave` | ends the last iteration | one less |

`move_of_turn` says that there are no others, and what is said about every state
of a render is proved from it.
-/

import BracketTemplate.Render
import Mathlib

namespace BracketTemplate

variable {ε α β : Type}

/-- A sequence succeeds if its parts do. -/
theorem bind_eq_ok {x : Except ε α} {f : α → Except ε β} {b : β} :
    (x >>= f) = .ok b ↔ ∃ a, x = .ok a ∧ f a = .ok b := by
  cases x with
  | error e => simp [Bind.bind, Except.bind]
  | ok a => simp [Bind.bind, Except.bind]

namespace State

@[simp] theorem bind_cursor (s : State) (binding? : Option String) (value : Value) :
    (s.bind binding? value).cursor = s.cursor := by cases binding? <;> rfl

@[simp] theorem bind_steps (s : State) (binding? : Option String) (value : Value) :
    (s.bind binding? value).steps = s.steps := by cases binding? <;> rfl

@[simp] theorem bind_loops (s : State) (binding? : Option String) (value : Value) :
    (s.bind binding? value).loops = s.loops := by cases binding? <;> rfl

@[simp] theorem bind_output (s : State) (binding? : Option String) (value : Value) :
    (s.bind binding? value).output = s.output := by cases binding? <;> rfl

/-- What a binding stores depends on the context only. -/
theorem bind_context_congr {s s' : State} (h : s'.context = s.context)
    (binding? : Option String) (value : Value) :
    (s'.bind binding? value).context = (s.bind binding? value).context := by
  cases binding? with
  | none => exact h
  | some name => exact congrArg (fun c => c.set name value) h

end State

namespace Machine

@[simp] theorem advance_cursor (t : Template) (s : State) (index : Nat) :
    (advance t s index).cursor = index + 1 := rfl

@[simp] theorem advance_steps (t : Template) (s : State) (index : Nat) :
    (advance t s index).steps = s.steps + 1 := rfl

@[simp] theorem advance_loops (t : Template) (s : State) (index : Nat) :
    (advance t s index).loops = s.loops := rfl

@[simp] theorem advance_context (t : Template) (s : State) (index : Nat) :
    (advance t s index).context = s.context := rfl

/-- A block is closed where its closing is found. -/
theorem closing_eq_ok {b : Block} {directives : List Directive} {d : Directive} {index k : Nat} :
    closing b directives d index = .ok k ↔ b.close? directives index = some k := by
  unfold closing
  split
  · rename_i close h
    simp [h]
  · rename_i h
    simp [h]

/-- Else it is not terminated. -/
theorem closing_eq_error {b : Block} {directives : List Directive} {d : Directive} {index : Nat}
    {e : RenderError} :
    closing b directives d index = .error e ↔
      b.close? directives index = none ∧ e = .unterminatedBlock d.keyword d.line := by
  unfold closing
  split
  · rename_i close h
    simp [h]
  · rename_i h
    simp [h, eq_comm]

/-- The header of a loop, when nothing is wrong with it. -/
theorem loopHeader_eq_ok {directives : List Directive} {d : Directive} {index k : Nat}
    {context : Context} {binding? : Option String} {items : List Value} :
    loopHeader directives d index context = .ok (binding?, k, items) ↔
      ∃ name, d.requiredArgument 0 = .ok name ∧
        (d.argument? 1).mapM Variable.bindingName = .ok binding? ∧
        Block.loop.close? directives index = some k ∧
        Variable.readItems context name d.line = .ok items := by
  unfold loopHeader
  simp only [bind_eq_ok, closing_eq_ok, pure, Except.pure, Except.ok.injEq, Prod.mk.injEq]
  constructor
  · rintro ⟨name, hname, b, hb, k', hk, items', hitems, rfl, rfl, rfl⟩
    exact ⟨name, hname, hb, hk, hitems⟩
  · rintro ⟨name, hname, hb, hk, hitems⟩
    exact ⟨name, hname, _, hb, _, hk, _, hitems, rfl, rfl, rfl⟩

/-- Where a condition leads, when nothing is wrong with it. -/
theorem conditionFlow_eq_ok {directives : List Directive} {d : Directive} {index : Nat}
    {context : Context} {flow : Flow} :
    conditionFlow directives d index context = .ok flow ↔
      ∃ name k value, d.requiredArgument 0 = .ok name ∧
        Block.condition.close? directives index = some k ∧
        Variable.read context name = .ok value ∧
        flow = if value.isTruthy then .next else .skipTo k := by
  unfold conditionFlow
  simp only [bind_eq_ok, closing_eq_ok, pure, Except.pure, Except.ok.injEq]
  constructor
  · rintro ⟨name, hname, k, hk, value, hvalue, rfl⟩
    exact ⟨name, k, value, hname, hk, hvalue, rfl⟩
  · rintro ⟨name, k, value, hname, hk, hvalue, rfl⟩
    exact ⟨name, hname, k, hk, value, hvalue, rfl⟩

/-- The ways in which a turn goes on, for the directive at the cursor. -/
inductive Move (inclusion : Inclusion) (t : Template) (d : Directive) (s : State) : State → Prop
  /-- On to the next directive. -/
  | pass (text : String) (context : Context)
    (hkind : d.kind ≠ .endLoop) (hloop : d.kind = .loop → s.isReentry = true)
    (hcontext : context = s.context ∨ ∃ name, d.kind = .component ∧
      d.requiredArgument 0 = .ok name ∧ context = (inclusion name s.context).context) :
    Move inclusion t d s
      (advance t { s with output := s.output ++ text, context := context } s.cursor)
  /-- Past a block that is left out. -/
  | skip (b : Block) (k : Nat) (hkind : d.kind = b.opener)
    (hclose : b.close? t.directives s.cursor = some k) : Move inclusion t d s (advance t s k)
  /-- Into a loop. -/
  | enter (binding? : Option String) (k : Nat) (first : Value) (rest : List Value)
    (hkind : d.kind = .loop) (hentry : s.isReentry = false)
    (hheader : loopHeader t.directives d s.cursor s.context = .ok (binding?, k, first :: rest)) :
    Move inclusion t d s
      (advance t { s.bind binding? first with
        loops := ⟨s.cursor, d, binding?, first :: rest, 0⟩ :: s.loops } s.cursor)
  /-- Back to the innermost loop. -/
  | turnBack (f : Frame) (outer : List Frame) (item : Value) (hkind : d.kind = .endLoop)
    (hloops : s.loops = f :: outer) (hitem : f.items[f.current + 1]? = some item) :
    Move inclusion t d s
      { s.bind f.binding? item with
        loops := { f with current := f.current + 1 } :: outer, cursor := f.origin }
  /-- Out of the innermost loop. -/
  | leave (f : Frame) (outer : List Frame) (hkind : d.kind = .endLoop)
    (hloops : s.loops = f :: outer) (hitem : f.items[f.current + 1]? = none) :
    Move inclusion t d s (advance t { s with loops := outer } s.cursor)

variable {inclusion : Inclusion} {layer : Nat} {t : Template}

/-- Going on without printing is a way to pass. -/
theorem Move.pass_unchanged {d : Directive} {s : State} (hkind : d.kind ≠ .endLoop)
    (hloop : d.kind = .loop → s.isReentry = true) :
    Move inclusion t d s (advance t s s.cursor) := by
  have h : Move inclusion t d s
      (advance t { s with output := s.output ++ "", context := s.context } s.cursor) :=
    .pass "" s.context hkind hloop (.inl rfl)
  rwa [String.append_empty] at h

/-- A directive that prints passes when it has something to print. -/
theorem move_of_print {d : Directive} {s : State} {flow : Flow}
    {text : Except RenderError String} (hkind : d.kind = .html ∨ d.kind = .variable)
    (hf : (Dispatch.print s text).flow = .ok flow) :
    Move inclusion t d s (follow t (Dispatch.print s text).state flow) := by
  cases text with
  | error e => cases hf
  | ok text =>
    obtain rfl : Flow.next = flow := Except.ok.inj hf
    refine .pass text s.context ?_ ?_ (.inl rfl)
    · rcases hkind with h | h <;> rw [h] <;> decide
    · rcases hkind with h | h <;> rw [h] <;> intro hk <;> cases hk

/-- A component passes when its render succeeds. -/
theorem move_of_includeComponent {d : Directive} {s : State} {flow : Flow}
    (hkind : d.kind = .component) (hf : (includeComponent inclusion s d).flow = .ok flow) :
    Move inclusion t d s (follow t (includeComponent inclusion s d).state flow) := by
  unfold includeComponent at hf ⊢
  cases hname : d.requiredArgument 0 with
  | error e => rw [hname] at hf; cases hf
  | ok name =>
    rw [hname] at hf
    dsimp only [takeOver] at hf ⊢
    cases htext : (inclusion name s.context).result with
    | error e => rw [htext] at hf; cases hf
    | ok text =>
      rw [htext] at hf
      obtain rfl : Flow.next = flow := Except.ok.inj hf
      exact .pass text _ (by rw [hkind]; decide) (fun h => by rw [hkind] at h; cases h)
        (.inr ⟨name, hkind, hname, rfl⟩)

/-- A loop that is not gone back to is entered, or skipped when it has no items. -/
theorem move_of_openLoop {d : Directive} {s : State} {flow : Flow} (hkind : d.kind = .loop)
    (hentry : s.isReentry = false) (hf : (openLoop layer t.directives s d).flow = .ok flow) :
    Move inclusion t d s (follow t (openLoop layer t.directives s d).state flow) := by
  unfold openLoop at hf ⊢
  split at hf
  · cases hf
  · rename_i k hheader
    obtain rfl : Flow.skipTo k = flow := Except.ok.inj hf
    obtain ⟨-, -, -, hclose, -⟩ := loopHeader_eq_ok.1 hheader
    exact .skip .loop k hkind hclose
  · rename_i binding? k first rest hheader
    obtain rfl : Flow.next = flow := Except.ok.inj hf
    have h : Move inclusion t d s _ := .enter binding? k first rest hkind hentry hheader
    simpa only [follow, State.bind_cursor] using h

/-- The end of a loop goes back to the innermost one, or leaves it. -/
theorem move_of_closeLoop {d : Directive} {s : State} {flow : Flow} (hkind : d.kind = .endLoop)
    (hf : (closeLoop layer s d).flow = .ok flow) :
    Move inclusion t d s (follow t (closeLoop layer s d).state flow) := by
  unfold closeLoop at hf ⊢
  split at hf
  · cases hf
  · rename_i f outer hloops
    split at hf
    · rename_i item hitem
      obtain rfl : Flow.rewind f.origin = flow := Except.ok.inj hf
      exact .turnBack f outer item hkind hloops hitem
    · rename_i hitem
      obtain rfl : Flow.next = flow := Except.ok.inj hf
      exact .leave f outer hkind hloops hitem

/-- A condition passes when it holds and is skipped when it does not. -/
theorem move_of_conditionFlow {d : Directive} {s : State} {flow : Flow}
    (hkind : d.kind = .condition)
    (hf : conditionFlow t.directives d s.cursor s.context = .ok flow) :
    Move inclusion t d s (follow t s flow) := by
  obtain ⟨name, k, value, -, hclose, -, rfl⟩ := conditionFlow_eq_ok.1 hf
  by_cases htruthy : value.isTruthy = true
  · rw [if_pos htruthy]
    exact .pass_unchanged (by rw [hkind]; decide) (fun h => by rw [hkind] at h; cases h)
  · rw [if_neg htruthy]
    exact .skip .condition k hkind hclose

/-- **What a directive leads to is one of the moves.** -/
theorem move_of_dispatch {d : Directive} {s : State} {flow : Flow}
    (hf : (dispatch inclusion layer t.directives s d).flow = .ok flow) :
    Move inclusion t d s (follow t (dispatch inclusion layer t.directives s d).state flow) := by
  unfold dispatch at hf ⊢
  cases hkind : d.kind with
  | component =>
    simp only [hkind] at hf
    exact move_of_includeComponent hkind hf
  | loop =>
    simp only [hkind] at hf
    by_cases hentry : s.isReentry = true
    · rw [if_pos hentry] at hf ⊢
      obtain rfl : Flow.next = flow := Except.ok.inj hf
      exact .pass_unchanged (by rw [hkind]; decide) fun _ => hentry
    · rw [if_neg hentry] at hf ⊢
      exact move_of_openLoop hkind (Bool.eq_false_iff.2 hentry) hf
  | endLoop =>
    simp only [hkind] at hf
    exact move_of_closeLoop hkind hf
  | condition =>
    simp only [hkind] at hf
    cases hflow : conditionFlow t.directives d s.cursor s.context with
    | error e => rw [hflow] at hf; cases hf
    | ok flow' =>
      rw [hflow] at hf
      obtain rfl : flow' = flow := Except.ok.inj hf
      exact move_of_conditionFlow hkind hflow
  | endCondition =>
    simp only [hkind] at hf
    obtain rfl : Flow.next = flow := Except.ok.inj hf
    exact .pass_unchanged (by rw [hkind]; decide) fun h => by rw [hkind] at h; cases h
  | html =>
    simp only [hkind] at hf
    exact move_of_print (.inl hkind) hf
  | «variable» =>
    simp only [hkind] at hf
    exact move_of_print (.inr hkind) hf

/-- A turn that goes on is a move, from a directive and within the steps. -/
theorem move_of_turn {s s' : State} {events : List Event}
    (h : turn inclusion layer t s = .go s' events) :
    ∃ p, t.pieces[s.cursor]? = some p ∧ s.steps ≤ maxSteps ∧
      Move inclusion t p.directive s s' := by
  unfold turn at h
  split at h
  · cases h
  · rename_i p hp
    split at h
    · cases h
    · rename_i hsteps
      dsimp only at h
      split at h
      · rename_i flow hflow
        obtain ⟨rfl, -⟩ := Turn.go.inj h
        exact ⟨p, hp, Nat.le_of_not_lt hsteps, move_of_dispatch hflow⟩
      · cases h

end Machine

end BracketTemplate
