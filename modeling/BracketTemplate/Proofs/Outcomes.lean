/-
# What a render comes to

A turn leads to another state (`Leads`) or ends the render with an outcome, a
result and the context that is left (`Ends`).  `run` gives a render `maxTurns`
turns.  That is enough: a step is taken in every turn but those that go back to
a loop, a loop gone back to is passed by a step, and no loop is open before the
first one (`turnsLeft_lt_of_move`).  So `run` comes to what the turns come to,
and to nothing else (`ends_run`, `run_outcome_of_ends`), and two renders can be
compared turn by turn with no count kept.
-/

import BracketTemplate.Proofs.OpenLoops

namespace BracketTemplate

/-- The result of a render and the context that it leaves. -/
abbrev Outcome := Except RenderError String × Context

namespace Machine

variable (inclusion : Inclusion) (layer : Nat) (t : Template)

/-- Whether a turn leads from a state to another. -/
def Leads (s s' : State) : Prop := ∃ events, turn inclusion layer t s = .go s' events

/-- Whether turns lead from a state to another. -/
def Reaches : State → State → Prop := Relation.ReflTransGen (Leads inclusion layer t)

/-- Whether the turns from a state come to an outcome. -/
inductive Ends : State → Outcome → Prop
  | halt {s : State} {r : Run} (h : turn inclusion layer t s = .halt r) : Ends s r.outcome
  | go {s s' : State} {events : List Event} {o : Outcome}
    (h : turn inclusion layer t s = .go s' events) (hend : Ends s' o) : Ends s o

variable {inclusion layer t}

theorem Reaches.refl (s : State) : Reaches inclusion layer t s s := Relation.ReflTransGen.refl

theorem Reaches.trans {s s' s'' : State} (h : Reaches inclusion layer t s s')
    (h' : Reaches inclusion layer t s' s'') : Reaches inclusion layer t s s'' :=
  Relation.ReflTransGen.trans h h'

theorem Leads.reaches {s s' : State} (h : Leads inclusion layer t s s') :
    Reaches inclusion layer t s s' := Relation.ReflTransGen.single h

/-- What a state comes to, a state that leads to it comes to as well. -/
theorem Reaches.ends {s s' : State} {o : Outcome} (h : Reaches inclusion layer t s s')
    (h' : Ends inclusion layer t s' o) : Ends inclusion layer t s o := by
  induction h using Relation.ReflTransGen.head_induction_on with
  | refl => exact h'
  | head hlead _ ih =>
    obtain ⟨events, hgo⟩ := hlead
    exact .go hgo ih

/-- A render comes to one outcome. -/
theorem Ends.unique {s : State} {o o' : Outcome} (h : Ends inclusion layer t s o)
    (h' : Ends inclusion layer t s o') : o = o' := by
  induction h with
  | halt hhalt =>
    cases h' with
    | halt hhalt' =>
      rw [hhalt] at hhalt'
      rw [Turn.halt.inj hhalt']
    | go hgo _ =>
      rw [hhalt] at hgo
      cases hgo
  | go hgo _ ih =>
    cases h' with
    | halt hhalt =>
      rw [hgo] at hhalt
      cases hhalt
    | go hgo' hend =>
      rw [hgo] at hgo'
      obtain ⟨rfl, -⟩ := Turn.go.inj hgo'
      exact ih hend

/-- The turns that lead to an outcome end in a last one. -/
theorem Ends.exists_halt {s : State} {o : Outcome} (h : Ends inclusion layer t s o) :
    ∃ last r, Reaches inclusion layer t s last ∧ turn inclusion layer t last = .halt r ∧
      r.outcome = o := by
  induction h with
  | @halt s r hhalt => exact ⟨s, r, .refl s, hhalt, rfl⟩
  | go hgo _ ih =>
    obtain ⟨last, r, hreach, hhalt, ho⟩ := ih
    exact ⟨last, r, (Leads.reaches ⟨_, hgo⟩).trans hreach, hhalt, ho⟩

/-- Turns that come to an end pass through every state that is reached. -/
theorem Reaches.of_halt {s s' last : State} {r : Run} (h : Reaches inclusion layer t s last)
    (hhalt : turn inclusion layer t last = .halt r) (h' : Reaches inclusion layer t s s') :
    Reaches inclusion layer t s' last := by
  have hunique : Relator.RightUnique (Leads inclusion layer t) := by
    rintro s s₁ s₂ ⟨_, h₁⟩ ⟨_, h₂⟩
    rw [h₁] at h₂
    exact (Turn.go.inj h₂).1
  rcases h'.total_of_right_unique hunique h with hreach | hreach
  · exact hreach
  · rcases hreach.cases_head with rfl | ⟨_, ⟨_, hgo⟩, _⟩
    · exact .refl _
    · rw [hhalt] at hgo
      cases hgo

/-- What a state comes to, a state to which it leads comes to as well. -/
theorem Ends.of_reaches {s s' : State} {o : Outcome} (h : Ends inclusion layer t s o)
    (h' : Reaches inclusion layer t s s') : Ends inclusion layer t s' o := by
  obtain ⟨last, r, hreach, hhalt, rfl⟩ := h.exists_halt
  exact (hreach.of_halt hhalt h').ends (.halt hhalt)

/-- The turns that a render can still take. -/
def turnsLeft (s : State) : Nat :=
  2 * (maxSteps + 1 - s.steps) +
    if s.steps ≤ maxSteps ∧ (s.isReentry = true ∨ s.steps = 0) then 0 else 1

theorem turnsLeft_pos (s : State) : 0 < turnsLeft s := by
  unfold turnsLeft
  split
  · rename_i h
    have := h.1
    omega
  · omega

/-- A step uses up two turns, one of which may have gone back to a loop. -/
theorem turnsLeft_lt_of_step {s s' : State} (hsteps : s.steps ≤ maxSteps)
    (h : s'.steps = s.steps + 1) : turnsLeft s' < turnsLeft s := by
  unfold turnsLeft
  rw [h]
  split <;> split <;> omega

/-- **Every move uses up a turn.** -/
theorem turnsLeft_lt_of_move {s s' : State} (hs : Sound t s) {p : Piece}
    (hp : t.pieces[s.cursor]? = some p) (hsteps : s.steps ≤ maxSteps)
    (h : Move inclusion t p.directive s s') : turnsLeft s' < turnsLeft s := by
  cases h with
  | pass text context _ _ _ => exact turnsLeft_lt_of_step hsteps rfl
  | skip b k _ _ => exact turnsLeft_lt_of_step hsteps rfl
  | enter binding? k first rest _ _ _ => exact turnsLeft_lt_of_step hsteps (by simp)
  | leave f outer _ _ _ => exact turnsLeft_lt_of_step hsteps rfl
  | turnBack f outer item hkind hloops _ =>
    -- the loop gone back to is passed next, and it was not passed in this turn
    have hpos : 0 < s.steps := hs.steps_pos (by rw [hloops]; exact List.cons_ne_nil _ _)
    have hentry : ¬ s.isReentry = true := fun h => by
      have := hs.kind_of_isReentry h hp
      rw [hkind] at this
      cases this
    have hback : State.isReentry { s.bind f.binding? item with
        loops := { f with current := f.current + 1 } :: outer, cursor := f.origin } = true :=
      isReentry_iff.2 ⟨_, outer, rfl, rfl⟩
    unfold turnsLeft
    rw [State.bind_steps, if_pos ⟨hsteps, .inl hback⟩, if_neg fun h => h.2.elim hentry (by omega)]
    omega

/-- As many turns as are left bring a render to its end. -/
theorem ends_runFor {turns : Nat} {s : State} (hs : Sound t s) (h : turnsLeft s ≤ turns) :
    Ends inclusion layer t s (runFor inclusion layer t turns s).outcome := by
  induction turns generalizing s with
  | zero =>
    have := turnsLeft_pos s
    omega
  | succ turns ih =>
    unfold runFor
    split
    · rename_i r hhalt
      exact .halt hhalt
    · rename_i s' events hgo
      obtain ⟨p, hp, hsteps, hmove⟩ := move_of_turn hgo
      have hlt := turnsLeft_lt_of_move hs hp hsteps hmove
      have hend : Ends inclusion layer t s' (runFor inclusion layer t turns s').outcome :=
        ih (hs.move hp hmove) (by omega)
      exact .go hgo hend

theorem turn_of_length_le {s : State} (h : t.pieces.length ≤ s.cursor) :
    turn inclusion layer t s = .halt (finish s) := by
  unfold turn
  rw [List.getElem?_eq_none h]

/-- A render at its end comes to what `finish` says. -/
theorem ends_finish {s : State} (h : t.pieces.length ≤ s.cursor) :
    Ends inclusion layer t s (finish s).outcome := .halt (turn_of_length_le h)

/-- A render succeeds if no loop is open at its end. -/
theorem finish_eq_ok {s : State} {text : String} {context : Context}
    (h : (finish s).outcome = (.ok text, context)) :
    s.loops = [] ∧ s.output = text ∧ s.context = context := by
  unfold finish at h
  split at h
  · rename_i hloops
    obtain ⟨hresult, hcontext⟩ := Prod.mk.inj h
    exact ⟨hloops, Except.ok.inj hresult, hcontext⟩
  · cases (Prod.mk.inj h).1

/-- Else it fails for want of the end of that loop. -/
theorem finish_eq_error {s : State} {e : RenderError} {context : Context}
    (h : (finish s).outcome = (.error e, context)) :
    ∃ keyword line, e = .unterminatedBlock keyword line := by
  unfold finish at h
  split at h
  · cases (Prod.mk.inj h).1
  · exact ⟨_, _, (Except.error.inj (Prod.mk.inj h).1).symm⟩

/-- **A render comes to what its turns come to.** -/
theorem ends_run (t : Template) (context : Context) :
    Ends inclusion layer t (start t context) (run inclusion layer t context).outcome := by
  unfold run
  split
  · rename_i hnil
    exact ends_finish (s := start t context) (by rw [hnil]; exact Nat.zero_le _)
  · exact ends_runFor (sound_start t context) (Nat.le_refl _)

theorem run_outcome_of_ends {context : Context} {o : Outcome}
    (h : Ends inclusion layer t (start t context) o) :
    (run inclusion layer t context).outcome = o := (ends_run t context).unique h

theorem turn_of_maxSteps_lt {s : State} (h : s.cursor < t.pieces.length)
    (hsteps : maxSteps < s.steps) :
    turn inclusion layer t s = .halt ⟨.error (.stepLimitExceeded maxSteps), s.context, []⟩ := by
  unfold turn
  rw [List.getElem?_eq_getElem h]
  dsimp only
  rw [if_pos hsteps]

/-- A render with too many steps fails at the next directive. -/
theorem ends_of_maxSteps_lt {s : State} (h : s.cursor < t.pieces.length)
    (hsteps : maxSteps < s.steps) :
    Ends inclusion layer t s (.error (.stepLimitExceeded maxSteps), s.context) :=
  .halt (turn_of_maxSteps_lt h hsteps)

/-- A directive leaves the cursor and the steps to its flow. -/
theorem dispatch_place (inclusion : Inclusion) (layer : Nat) (directives : List Directive)
    (s : State) (d : Directive) :
    (dispatch inclusion layer directives s d).state.cursor = s.cursor ∧
      (dispatch inclusion layer directives s d).state.steps = s.steps := by
  have hprint : ∀ x, (Dispatch.print s x).state.cursor = s.cursor ∧
      (Dispatch.print s x).state.steps = s.steps := by
    intro x
    cases x <;> exact ⟨rfl, rfl⟩
  unfold dispatch
  cases d.kind with
  | component =>
    dsimp only [includeComponent]
    split
    · unfold takeOver
      split <;> exact ⟨rfl, rfl⟩
    · exact ⟨rfl, rfl⟩
  | loop =>
    dsimp only
    split
    · exact ⟨rfl, rfl⟩
    · unfold openLoop
      split <;> simp [Dispatch.fail]
  | endLoop =>
    dsimp only [closeLoop]
    split
    · exact ⟨rfl, rfl⟩
    · split <;> simp
  | condition =>
    dsimp only
    split <;> exact ⟨rfl, rfl⟩
  | endCondition => exact ⟨rfl, rfl⟩
  | html => exact hprint _
  | «variable» => exact hprint _

/-- A directive that goes on leads to where its flow says. -/
theorem leads_of_dispatch {s : State} {p : Piece} {flow : Flow}
    (hp : t.pieces[s.cursor]? = some p) (hsteps : s.steps ≤ maxSteps)
    (h : (dispatch inclusion layer t.directives s p.directive).flow = .ok flow) :
    Leads inclusion layer t s
      (follow t (dispatch inclusion layer t.directives s p.directive).state flow) := by
  unfold Leads turn
  rw [hp]
  dsimp only
  rw [if_neg (by omega), h]
  exact ⟨_, rfl⟩

/-- A directive that fails ends the render. -/
theorem exists_halt_of_dispatch {s : State} {p : Piece} {e : RenderError}
    (hp : t.pieces[s.cursor]? = some p) (hsteps : s.steps ≤ maxSteps)
    (h : (dispatch inclusion layer t.directives s p.directive).flow = .error e) :
    ∃ events, turn inclusion layer t s = .halt
      ⟨.error e, (dispatch inclusion layer t.directives s p.directive).state.context, events⟩ := by
  unfold turn
  rw [hp]
  dsimp only
  rw [if_neg (by omega), h]
  exact ⟨_, rfl⟩

theorem ends_of_dispatch {s : State} {p : Piece} {e : RenderError}
    (hp : t.pieces[s.cursor]? = some p) (hsteps : s.steps ≤ maxSteps)
    (h : (dispatch inclusion layer t.directives s p.directive).flow = .error e) :
    Ends inclusion layer t s
      (.error e, (dispatch inclusion layer t.directives s p.directive).state.context) := by
  obtain ⟨events, hhalt⟩ := exists_halt_of_dispatch hp hsteps h
  exact .halt hhalt

/-- The ways in which a turn ends a render. -/
theorem outcome_of_halt {s : State} {r : Run} (h : turn inclusion layer t s = .halt r) :
    (t.pieces[s.cursor]? = none ∧ r.outcome = (finish s).outcome) ∨
      ∃ p, t.pieces[s.cursor]? = some p ∧
        ((maxSteps < s.steps ∧ r.outcome = (.error (.stepLimitExceeded maxSteps), s.context)) ∨
          (s.steps ≤ maxSteps ∧ ∃ e,
            (dispatch inclusion layer t.directives s p.directive).flow = .error e ∧
            r.outcome = (.error e,
              (dispatch inclusion layer t.directives s p.directive).state.context))) := by
  unfold turn at h
  split at h
  · rename_i hp
    exact .inl ⟨hp, congrArg Run.outcome (Turn.halt.inj h).symm⟩
  · rename_i p hp
    refine .inr ⟨p, hp, ?_⟩
    split at h
    · rename_i hsteps
      exact .inl ⟨hsteps, congrArg Run.outcome (Turn.halt.inj h).symm⟩
    · rename_i hsteps
      dsimp only at h
      split at h
      · cases h
      · rename_i e he
        exact .inr ⟨Nat.le_of_not_lt hsteps, e, he, congrArg Run.outcome (Turn.halt.inj h).symm⟩

/-- A turn that goes on carries out a directive and follows its flow. -/
theorem flow_of_go {s s' : State} {events : List Event}
    (h : turn inclusion layer t s = .go s' events) :
    ∃ p flow, t.pieces[s.cursor]? = some p ∧ s.steps ≤ maxSteps ∧
      (dispatch inclusion layer t.directives s p.directive).flow = .ok flow ∧
      s' = follow t (dispatch inclusion layer t.directives s p.directive).state flow := by
  unfold turn at h
  split at h
  · cases h
  · rename_i p hp
    split at h
    · cases h
    · rename_i hsteps
      dsimp only at h
      split at h
      · rename_i flow hflow
        obtain ⟨rfl, -⟩ := Turn.go.inj h
        exact ⟨p, flow, hp, Nat.le_of_not_lt hsteps, hflow, rfl⟩
      · cases h

end Machine

end BracketTemplate
