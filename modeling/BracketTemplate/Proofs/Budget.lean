/-
# Every render ends

A turn that is carried out either takes a step, to the next directive or past a
block, or goes back to a loop.  Steps are counted and there is an end to them,
going back is free:

| turn | steps | going back |
| --- | --- | --- |
| to the next directive, or past a block | one more | allowed after it |
| back to the innermost loop | the same | not before the next step |

A loop that is gone back to is passed by a step, because it is still the
innermost one (`dispatch_of_isReentry`), and the first turn of a render does not
go back.  So a render goes back less often than it takes steps, and no more than
`maxSteps` times (`Spent`, kept by every turn in `Spent.of_step`, `Spent.of_rewind`).

Components are rendered in a turn.  Each is a layer deeper than the text that
includes it, and none is deeper than `maxLayer` (`layer_of_mem_events`), so a
render ends also if its components include one another in a circle.
-/

import BracketTemplate.Proofs.Record

namespace BracketTemplate

/-- An element of a list with one more is an element of the list or the new one. -/
theorem getElem?_append_singleton {α : Type} {xs : List α} {x y : α} {i : Nat}
    (h : (xs ++ [x])[i]? = some y) : xs[i]? = some y ∨ (i = xs.length ∧ x = y) := by
  obtain ⟨hi, rfl⟩ := List.getElem?_eq_some_iff.1 h
  rw [List.length_append, List.length_singleton] at hi
  rcases Nat.lt_succ_iff_lt_or_eq.1 hi with hlt | rfl
  · rw [List.getElem_append_left hlt]
    exact .inl (List.getElem?_eq_getElem hlt)
  · exact .inr ⟨rfl, (List.getElem_concat_length rfl _).symm⟩

/-- Whether the cursor goes back. -/
def Flow.isRewind : Flow → Bool
  | .rewind _ => true
  | .next | .skipTo _ => false

namespace Machine

variable (inclusion : Inclusion) (layer : Nat) (t : Template)

/-- The turns that lead from a state to another, in order: the index of the
directive that is carried out in each, and where it makes the cursor go. -/
inductive Course (s : State) : List (Nat × Flow) → State → Prop
  | start : Course s [] s
  | turn {turns : List (Nat × Flow)} {s' s'' : State} {p : Piece} {flow : Flow}
    (h : Course s turns s') (hp : t.pieces[s'.cursor]? = some p)
    (hflow : (dispatch inclusion layer t.directives s' p.directive).flow = .ok flow)
    (hlead : Leads inclusion layer t s' s'') : Course s (turns ++ [(s'.cursor, flow)]) s''

/-- The turns that take a step. -/
def advances (turns : List (Nat × Flow)) : Nat := turns.countP fun turn => !turn.2.isRewind

/-- The turns that go back to a loop. -/
def rewinds (turns : List (Nat × Flow)) : Nat := turns.countP fun turn => turn.2.isRewind

variable {inclusion layer t}

theorem advances_append (turns : List (Nat × Flow)) (index : Nat) (flow : Flow) :
    advances (turns ++ [(index, flow)]) = advances turns + if flow.isRewind then 0 else 1 := by
  unfold advances
  rw [List.countP_append, List.countP_singleton]
  cases flow.isRewind <;> rfl

theorem rewinds_append (turns : List (Nat × Flow)) (index : Nat) (flow : Flow) :
    rewinds (turns ++ [(index, flow)]) = rewinds turns + if flow.isRewind then 1 else 0 := by
  unfold rewinds
  rw [List.countP_append, List.countP_singleton]

/-- Every state that is reached is at the end of a course. -/
theorem exists_course_of_reaches {s s' : State} (h : Reaches inclusion layer t s s') :
    ∃ turns, Course inclusion layer t s turns s' := by
  induction h with
  | refl => exact ⟨[], .start⟩
  | tail _ hlead ih =>
    obtain ⟨turns, hcourse⟩ := ih
    obtain ⟨events, hgo⟩ := id hlead
    obtain ⟨p, flow, hp, -, hflow, -⟩ := flow_of_go hgo
    exact ⟨_, .turn hcourse hp hflow hlead⟩

/-- And the end of a course is reached. -/
theorem Course.reaches {s s' : State} {turns : List (Nat × Flow)}
    (h : Course inclusion layer t s turns s') : Reaches inclusion layer t s s' := by
  induction h with
  | start => exact .refl s
  | turn _ _ _ hlead ih => exact ih.trans hlead.reaches

/-- A loop that has been gone back to is passed. -/
theorem dispatch_of_isReentry {s : State} {d : Directive} (hkind : d.kind = .loop)
    (h : s.isReentry = true) (directives : List Directive) :
    dispatch inclusion layer directives s d = ⟨.ok .next, s, []⟩ := by
  unfold dispatch
  rw [hkind]
  exact if_pos h

/-- A turn takes a step unless it goes back. -/
theorem steps_of_leads {s s' : State} {p : Piece} {flow : Flow}
    (hp : t.pieces[s.cursor]? = some p)
    (hflow : (dispatch inclusion layer t.directives s p.directive).flow = .ok flow)
    (hlead : Leads inclusion layer t s s') :
    s.steps ≤ maxSteps ∧ s'.steps = s.steps + if flow.isRewind then 0 else 1 := by
  obtain ⟨events, hgo⟩ := hlead
  obtain ⟨q, flow', hq, hsteps, hflow', rfl⟩ := flow_of_go hgo
  obtain rfl : p = q := Option.some.inj (hp.symm.trans hq)
  obtain rfl : flow = flow' := Except.ok.inj (hflow.symm.trans hflow')
  have hplace := (dispatch_place inclusion layer t.directives s p.directive).2
  refine ⟨hsteps, ?_⟩
  cases flow <;> simp [follow, Flow.isRewind, hplace]

/-- A turn that goes back leads to the beginning of the innermost loop. -/
theorem isReentry_of_rewind {s s' : State} {p : Piece} {origin : Nat} (hs : Sound t s)
    (hp : t.pieces[s.cursor]? = some p)
    (hflow : (dispatch inclusion layer t.directives s p.directive).flow = .ok (.rewind origin))
    (hlead : Leads inclusion layer t s s') :
    s.isReentry = false ∧ s.loops ≠ [] ∧ s'.isReentry = true ∧ s'.cursor = origin := by
  have hsteps : s'.steps = s.steps := (steps_of_leads hp hflow hlead).2
  obtain ⟨events, hgo⟩ := hlead
  have hcursor : s'.cursor = origin := by
    obtain ⟨q, flow, hq, -, hflow', rfl⟩ := flow_of_go hgo
    obtain rfl : p = q := Option.some.inj (hp.symm.trans hq)
    obtain rfl : Flow.rewind origin = flow := Except.ok.inj (hflow.symm.trans hflow')
    rfl
  obtain ⟨q, hq, -, hmove⟩ := move_of_turn hgo
  obtain rfl : p = q := Option.some.inj (hp.symm.trans hq)
  have hstep : ¬ s'.steps = s.steps + 1 := by omega
  cases hmove with
  | pass text context _ _ _ => exact absurd rfl hstep
  | skip b k _ _ => exact absurd rfl hstep
  | enter binding? k first rest _ _ _ =>
    rw [advance_steps, State.bind_steps] at hstep
    exact absurd rfl hstep
  | leave f outer _ _ _ => exact absurd rfl hstep
  | turnBack f outer item hkind hloops _ =>
    refine ⟨Bool.eq_false_iff.2 fun hentry => ?_, ?_, isReentry_iff.2 ⟨_, outer, rfl, rfl⟩, hcursor⟩
    · have hloop := hs.kind_of_isReentry hentry hp
      rw [hkind] at hloop
      cases hloop
    · rw [hloops]
      exact List.cons_ne_nil f outer

/-- What the turns of a render have spent when it stands in a state. -/
structure Spent (t : Template) (turns : List (Nat × Flow)) (s : State) : Prop where
  steps : s.steps = advances turns
  steps_le : s.steps ≤ maxSteps + 1
  rewinds_le : rewinds turns ≤ maxSteps
  rewinds_le_steps : rewinds turns ≤ s.steps
  /-- Where a loop has not just been gone back to, there has been a step since. -/
  rewinds_lt : s.isReentry = false → 0 < s.steps → rewinds turns < s.steps
  /-- A loop that is gone back to is passed next, or still to be passed. -/
  passed : ∀ {i k origin : Nat}, turns[i]? = some (k, .rewind origin) →
    turns[i + 1]? = some (origin, .next) ∨
      (i + 1 = turns.length ∧ s.cursor = origin ∧ s.isReentry = true ∧ s.steps ≤ maxSteps)
  opener : ∀ {i k origin : Nat}, turns[i]? = some (k, .rewind origin) →
    ∃ p, t.pieces[origin]? = some p ∧ p.directive.kind = .loop

/-- Nothing is spent at the start. -/
theorem spent_start (t : Template) (context : Context) : Spent t [] (start t context) where
  steps := rfl
  steps_le := Nat.zero_le _
  rewinds_le := Nat.zero_le _
  rewinds_le_steps := Nat.zero_le _
  rewinds_lt := fun _ h => absurd h (Nat.lt_irrefl 0)
  passed := fun h => by cases h
  opener := fun h => by cases h

/-- A loop that has been gone back to is passed in the next turn. -/
theorem Spent.passed_append {s : State} {turns : List (Nat × Flow)} (h : Spent t turns s)
    (hs : Sound t s) {p : Piece} {flow : Flow} (hp : t.pieces[s.cursor]? = some p)
    (hflow : (dispatch inclusion layer t.directives s p.directive).flow = .ok flow)
    {i k origin : Nat} (hi : turns[i]? = some (k, .rewind origin)) :
    (turns ++ [(s.cursor, flow)])[i + 1]? = some (origin, .next) := by
  rcases h.passed hi with hnext | ⟨hlength, hcursor, hentry, -⟩
  · rw [List.getElem?_append_left (List.getElem?_eq_some_iff.1 hnext).1, hnext]
  · rw [dispatch_of_isReentry (hs.kind_of_isReentry hentry hp) hentry] at hflow
    obtain rfl : Flow.next = flow := Except.ok.inj hflow
    rw [hlength, List.getElem?_concat_length, hcursor]

/-- A turn that takes a step keeps to the budget. -/
theorem Spent.of_step {s s' : State} {turns : List (Nat × Flow)} (h : Spent t turns s)
    (hs : Sound t s) {p : Piece} {flow : Flow} (hp : t.pieces[s.cursor]? = some p)
    (hflow : (dispatch inclusion layer t.directives s p.directive).flow = .ok flow)
    (hlead : Leads inclusion layer t s s') (hstep : flow.isRewind = false) :
    Spent t (turns ++ [(s.cursor, flow)]) s' := by
  obtain ⟨hle, hsteps⟩ := steps_of_leads hp hflow hlead
  have hadvances := advances_append turns s.cursor flow
  have hrewinds := rewinds_append turns s.cursor flow
  simp only [hstep, Bool.false_eq_true, if_false] at hsteps hadvances hrewinds
  have hspent := h.steps
  have hrewound := h.rewinds_le_steps
  have hbefore : ∀ {i k origin : Nat},
      (turns ++ [(s.cursor, flow)])[i]? = some (k, .rewind origin) →
        turns[i]? = some (k, .rewind origin) := by
    intro i k origin hi
    rcases getElem?_append_singleton hi with hi | ⟨-, hlast⟩
    · exact hi
    · obtain rfl : flow = .rewind origin := (Prod.mk.inj hlast).2
      cases hstep
  exact {
    steps := by omega
    steps_le := by omega
    rewinds_le := by
      rw [hrewinds]
      exact h.rewinds_le
    rewinds_le_steps := by omega
    rewinds_lt := fun _ _ => by omega
    passed := fun hi => .inl (h.passed_append hs hp hflow (hbefore hi))
    opener := fun hi => h.opener (hbefore hi) }

/-- So does a turn that goes back: there has been a step since the last one. -/
theorem Spent.of_rewind {s s' : State} {turns : List (Nat × Flow)} (h : Spent t turns s)
    (hs : Sound t s) {p : Piece} {origin : Nat} (hp : t.pieces[s.cursor]? = some p)
    (hflow : (dispatch inclusion layer t.directives s p.directive).flow = .ok (.rewind origin))
    (hlead : Leads inclusion layer t s s') (hs' : Sound t s') :
    Spent t (turns ++ [(s.cursor, .rewind origin)]) s' := by
  obtain ⟨hle, hsteps⟩ := steps_of_leads hp hflow hlead
  have hadvances := advances_append turns s.cursor (.rewind origin)
  have hrewinds := rewinds_append turns s.cursor (.rewind origin)
  simp only [Flow.isRewind, if_true] at hsteps hadvances hrewinds
  have hspent := h.steps
  obtain ⟨hentry, hloops, hentry', hcursor⟩ := isReentry_of_rewind hs hp hflow hlead
  have hlt := h.rewinds_lt hentry (hs.steps_pos hloops)
  have hopener : ∃ q, t.pieces[origin]? = some q ∧ q.directive.kind = .loop := by
    obtain ⟨f, outer, hloops', horigin⟩ := isReentry_iff.1 hentry'
    obtain ⟨q, hq, hkind, -⟩ := hs'.opener f (by rw [hloops']; exact List.mem_cons_self)
    rw [horigin, hcursor] at hq
    exact ⟨q, hq, hkind⟩
  exact {
    steps := by omega
    steps_le := by omega
    rewinds_le := by omega
    rewinds_le_steps := by omega
    rewinds_lt := fun hno => by
      rw [hentry'] at hno
      cases hno
    passed := fun {i k origin'} hi => by
      rcases getElem?_append_singleton hi with hi | ⟨rfl, hlast⟩
      · exact .inl (h.passed_append hs hp hflow hi)
      · obtain rfl := Flow.rewind.inj (Prod.mk.inj hlast).2
        refine .inr ⟨?_, hcursor, hentry', by omega⟩
        rw [List.length_append, List.length_singleton]
    opener := fun {i k origin'} hi => by
      rcases getElem?_append_singleton hi with hi | ⟨-, hlast⟩
      · exact h.opener hi
      · obtain rfl := Flow.rewind.inj (Prod.mk.inj hlast).2
        exact hopener }

/-- A course from the start of a render keeps to the budget. -/
theorem spent_of_course {context : Context} {turns : List (Nat × Flow)} {s : State}
    (h : Course inclusion layer t (start t context) turns s) : Sound t s ∧ Spent t turns s := by
  induction h with
  | start => exact ⟨sound_start t context, spent_start t context⟩
  | @turn turns s s' p flow _ hp hflow hlead ih =>
    obtain ⟨hs, hspent⟩ := ih
    have hs' : Sound t s' := by
      obtain ⟨events, hgo⟩ := id hlead
      obtain ⟨q, hq, -, hmove⟩ := move_of_turn hgo
      exact hs.move hq hmove
    refine ⟨hs', ?_⟩
    cases flow with
    | next => exact hspent.of_step hs hp hflow hlead rfl
    | skipTo index => exact hspent.of_step hs hp hflow hlead rfl
    | rewind origin => exact hspent.of_rewind hs hp hflow hlead hs'

/-- A render that ends without having carried out anything in its last turn, for
want of steps, has too many of them and is not at the end of its text. -/
theorem halt_limit_iff {s : State} {r : Run} (hhalt : turn inclusion layer t s = .halt r) :
    (∃ x, r = ⟨.error (.stepLimitExceeded maxSteps), x, []⟩) ↔
      maxSteps < s.steps ∧ s.cursor < t.pieces.length := by
  unfold turn at hhalt
  cases hp : t.pieces[s.cursor]? with
  | none =>
    rw [hp] at hhalt
    obtain rfl := Turn.halt.inj hhalt
    have hlength := List.getElem?_eq_none_iff.1 hp
    refine ⟨?_, fun h => absurd h.2 (Nat.not_lt.2 hlength)⟩
    rintro ⟨x, hx⟩
    obtain ⟨keyword, line, he⟩ := finish_eq_error (congrArg Run.outcome hx)
    cases he
  | some p =>
    obtain ⟨hlength, -⟩ := List.getElem?_eq_some_iff.1 hp
    rw [hp] at hhalt
    dsimp only at hhalt
    split at hhalt
    · rename_i hsteps
      obtain rfl := Turn.halt.inj hhalt
      exact ⟨fun _ => ⟨hsteps, hlength⟩, fun _ => ⟨_, rfl⟩⟩
    · rename_i hsteps
      refine ⟨?_, fun h => absurd h.1 hsteps⟩
      rintro ⟨x, rfl⟩
      split at hhalt
      · cases hhalt
      · cases Turn.halt.inj hhalt

/-- A render does not end where a loop has just been gone back to. -/
theorem not_halt_of_isReentry {s : State} {p : Piece} (hs : Sound t s)
    (hp : t.pieces[s.cursor]? = some p) (hentry : s.isReentry = true)
    (hsteps : s.steps ≤ maxSteps) (r : Run) : turn inclusion layer t s ≠ .halt r := by
  intro hhalt
  have hdispatch : dispatch inclusion layer t.directives s p.directive = ⟨.ok .next, s, []⟩ :=
    dispatch_of_isReentry (hs.kind_of_isReentry hentry hp) hentry t.directives
  obtain ⟨events, hgo⟩ := leads_of_dispatch hp hsteps (congrArg Dispatch.flow hdispatch)
  rw [hhalt] at hgo
  cases hgo

/-- What is true of the turns of a render up to its end, in a state `last` and
with a run `r`. -/
structure WithinBudget (t : Template) (turns : List (Nat × Flow)) (last : State) (r : Run) :
    Prop where
  advances_le : advances turns ≤ maxSteps + 1
  rewinds_le : rewinds turns ≤ maxSteps
  /-- A turn that goes back is followed by one that passes the loop gone back to. -/
  passed : ∀ {i k origin : Nat}, turns[i]? = some (k, .rewind origin) →
    turns[i + 1]? = some (origin, .next) ∧
      ∃ p, t.pieces[origin]? = some p ∧ p.directive.kind = .loop
  /-- The render fails for want of steps, and with nothing done in its last turn,
  exactly if all steps have been taken and directives are left. -/
  limit : (∃ x, r = ⟨.error (.stepLimitExceeded maxSteps), x, []⟩) ↔
    advances turns = maxSteps + 1 ∧ last.cursor < t.pieces.length

/-- **A render comes to its end within the budget.** -/
theorem exists_course (inclusion : Inclusion) (layer : Nat) (t : Template) (context : Context) :
    ∃ turns last r, Course inclusion layer t (start t context) turns last ∧
      turn inclusion layer t last = .halt r ∧
      (run inclusion layer t context).outcome = r.outcome ∧ WithinBudget t turns last r := by
  have hend : Ends inclusion layer t (start t context) (run inclusion layer t context).outcome :=
    ends_run t context
  obtain ⟨last, r, hreach, hhalt, ho⟩ := hend.exists_halt
  obtain ⟨turns, hcourse⟩ := exists_course_of_reaches hreach
  obtain ⟨hs, hspent⟩ := spent_of_course hcourse
  have hsteps := hspent.steps
  have hle := hspent.steps_le
  refine ⟨turns, last, r, hcourse, hhalt, ho.symm, ?_⟩
  refine ⟨by omega, hspent.rewinds_le, fun {i k origin} hi => ⟨?_, hspent.opener hi⟩, ?_⟩
  · rcases hspent.passed hi with hnext | ⟨-, hcursor, hentry, hfew⟩
    · exact hnext
    · obtain ⟨p, hp, -⟩ := hspent.opener hi
      rw [← hcursor] at hp
      exact absurd hhalt (not_halt_of_isReentry hs hp hentry hfew r)
  · rw [halt_limit_iff hhalt]
    exact and_congr_left fun _ => by omega

end Machine

namespace Render

open Machine (Course WithinBudget)

variable (settings : Settings) (loader : Loader)

/-- **No component is rendered too deep.**  What is done in a render is done in
its own layer or in a deeper one up to `maxLayer`, and a component is included
only where there is a layer left for it. -/
theorem layer_of_mem_events (layer : Nat) (text : String) (context : Context) {e : Event}
    (h : e ∈ (renderAt settings loader layer text context).events) :
    (e.layer = layer ∨ (layer < e.layer ∧ e.layer ≤ maxLayer)) ∧
      ∀ name path, e.action = .included name path → e.layer < maxLayer := by
  induction hleft : maxLayer - layer using Nat.strongRecOn generalizing layer text context with
  | ind left ih =>
    rw [renderAt_eq_run] at h
    rcases Machine.mem_events_run h with ⟨hlayer, hown⟩ | ⟨d, -, name, context', -, h⟩
    · refine ⟨.inl hlayer, fun name path hincluded => ?_⟩
      rw [hincluded] at hown
      cases hown
    · obtain ⟨hlayer, rfl | rfl | ⟨source, -, h⟩⟩ := mem_events_componentAt h
      · exact ⟨.inl rfl, fun _ _ _ => hlayer⟩
      · exact ⟨.inl rfl, fun _ _ h => by cases h⟩
      · obtain ⟨hdeeper, hincluded⟩ := ih _ (by omega) (layer + 1) source context' h rfl
        exact ⟨.inr (by omega), hincluded⟩

/-- **Every render ends.**  For every text, loader, context and layer the turns
come to an end, and the render comes to what they come to.  At most 201 of them
take a step and at most 200 go back; each that goes back is followed by one that
passes the loop gone back to; and the render fails of itself for want of steps
exactly if 201 have been taken and directives are left.  Components are included
up to layer 5 only. -/
theorem renderAt_ends (layer : Nat) (text : String) (context : Context) :
    (∃ turns last r,
      Course (componentAt settings loader layer) layer (.ofText text)
        (Machine.start (.ofText text) context) turns last ∧
      Machine.turn (componentAt settings loader layer) layer (.ofText text) last = .halt r ∧
      (renderAt settings loader layer text context).outcome = r.outcome ∧
      WithinBudget (.ofText text) turns last r) ∧
    ∀ e ∈ (renderAt settings loader layer text context).events,
      (e.layer = layer ∨ (layer < e.layer ∧ e.layer ≤ maxLayer)) ∧
        ∀ name path, e.action = .included name path → e.layer + 1 ≤ maxLayer := by
  constructor
  · rw [renderAt_eq_run]
    exact Machine.exists_course _ layer _ context
  · exact fun e he => layer_of_mem_events settings loader layer text context he

end Render

end BracketTemplate
