/-
# Loops that are gone through

Which directive ends an iteration of which loop is settled while a text is
rendered: the end of a loop acts on the innermost loop that is open, and a
condition that does not hold may hide it from one loop and leave it to another.
So nothing is said here about where loops end in the text, and all about turns:

| | the turns | between them |
| --- | --- | --- |
| `Whole` | go on, or open a loop | the rounds of that loop |
| `Rounds` | go back to the loop for the next item, or leave it after the last | turns that are whole |

A loop is opened over the items that its sequence has at that moment (`Opens`),
and its rounds are those of the items that are still to come.

A render that succeeds ends with no loop open, and that decides what happened
before: every loop that was opened has been left (`Unwinds`, read backwards from
the end in `unwinds_of_reaches`), so every turn in which a loop was opened was
followed by the rounds of that loop (`loopsGoneThrough_of_reaches`).
-/

import BracketTemplate.Proofs.Layers
import BracketTemplate.Proofs.Variables

namespace BracketTemplate

namespace Machine

variable (inclusion : Inclusion) (layer : Nat) (t : Template)

/-- The opening of a loop: its directive is come to and names a sequence, the
first item is stored and the others, `rest`, are still to come. -/
structure Opens (s : State) (f : Frame) (rest : List Value) (s' : State) : Prop where
  leads : Leads inclusion layer t s s'
  /-- The directive is a loop that has not been gone back to. -/
  opener : ∃ p, t.pieces[s.cursor]? = some p ∧ p.directive = f.opener
  kind : f.opener.kind = .loop
  isReentry : s.isReentry = false
  origin : f.origin = s.cursor
  binding? : f.binding? = f.opener.argument? 1
  current : f.current = 0
  /-- The items are those of the sequence that the context holds now. -/
  sequence : ∃ name, f.opener.argument? 0 = some name ∧
    s.context.lookup? name = some (.sequence f.items)
  loops : s'.loops = f :: s.loops
  context : ∃ first, f.items = first :: rest ∧ s'.context = (s.bind f.binding? first).context

mutual

/-- Turns in which every loop that is opened is also gone through. -/
inductive Whole : State → State → Prop
  /-- No turn. -/
  | done (s : State) : Whole s s
  /-- A turn that leaves the open loops as they are.  Only a component stores
  something. -/
  | step {s s₁ s' : State} {p : Piece} (hlead : Leads inclusion layer t s s₁)
    (hp : t.pieces[s.cursor]? = some p) (hloops : s₁.loops = s.loops)
    (hcontext : p.directive.kind ≠ .component → s₁.context = s.context)
    (hrest : Whole s₁ s') : Whole s s'
  /-- A loop, from its opening to where it is left. -/
  | loop {s s₁ s₂ s' : State} {f : Frame} {rest : List Value}
    (hopens : Opens inclusion layer t s f rest s₁) (hrounds : Rounds f s.loops rest s₁ s₂)
    (hrest : Whole s₂ s') : Whole s s'

/-- The rounds of the innermost loop `f`, from within one to where the loop is
left, when some items are still to come and other loops are open around it. -/
inductive Rounds : Frame → List Frame → List Value → State → State → Prop
  /-- The loop is gone back to, and the next item is stored. -/
  | next {f : Frame} {outer : List Frame} {item : Value} {rest : List Value}
    {s s₁ s₂ s' : State} (hbody : Whole s s₁) (hloops : s₁.loops = f :: outer)
    (hitem : f.items[f.current + 1]? = some item) (hlead : Leads inclusion layer t s₁ s₂)
    (hback : s₂.cursor = f.origin)
    (hcontext : s₂.context = (s₁.bind f.binding? item).context)
    (hrest : Rounds { f with current := f.current + 1 } outer rest s₂ s') :
    Rounds f outer (item :: rest) s s'
  /-- The loop is left, and nothing is stored. -/
  | last {f : Frame} {outer : List Frame} {s s₁ s' : State} (hbody : Whole s s₁)
    (hloops : s₁.loops = f :: outer) (hitem : f.items[f.current + 1]? = none)
    (hlead : Leads inclusion layer t s₁ s') (hleft : s'.loops = outer)
    (hcontext : s'.context = s₁.context) : Rounds f outer [] s s'

end

/-- Turns that leave one open loop after another, the innermost first. -/
inductive Unwinds : List Frame → State → State → Prop
  | whole {s s' : State} (h : Whole inclusion layer t s s') : Unwinds [] s s'
  | rounds {f : Frame} {outer : List Frame} {s s₁ s' : State}
    (hrounds : Rounds inclusion layer t f outer (f.items.drop (f.current + 1)) s s₁)
    (hrest : Unwinds outer s₁ s') : Unwinds (f :: outer) s s'

variable {inclusion layer t}

/-- A turn that leaves the open loops as they are belongs to the round that is
begun. -/
theorem Rounds.of_step {f : Frame} {outer : List Frame} {rest : List Value} {s s₁ s' : State}
    {p : Piece} (hlead : Leads inclusion layer t s s₁) (hp : t.pieces[s.cursor]? = some p)
    (hloops : s₁.loops = s.loops)
    (hcontext : p.directive.kind ≠ .component → s₁.context = s.context)
    (h : Rounds inclusion layer t f outer rest s₁ s') :
    Rounds inclusion layer t f outer rest s s' := by
  cases h with
  | next hbody hl hitem hlead' hback hstored hrest =>
    exact .next (.step hlead hp hloops hcontext hbody) hl hitem hlead' hback hstored hrest
  | last hbody hl hitem hlead' hleft hstored =>
    exact .last (.step hlead hp hloops hcontext hbody) hl hitem hlead' hleft hstored

/-- So does a loop inside, with all of its rounds. -/
theorem Rounds.of_opens {f g : Frame} {outer : List Frame} {left rest : List Value}
    {s s₁ s₂ s' : State} (hopens : Opens inclusion layer t s g left s₁)
    (hrounds : Rounds inclusion layer t g s.loops left s₁ s₂)
    (h : Rounds inclusion layer t f outer rest s₂ s') :
    Rounds inclusion layer t f outer rest s s' := by
  cases h with
  | next hbody hl hitem hlead hback hstored hrest =>
    exact .next (.loop hopens hrounds hbody) hl hitem hlead hback hstored hrest
  | last hbody hl hitem hlead hleft hstored =>
    exact .last (.loop hopens hrounds hbody) hl hitem hlead hleft hstored

/-- A loop that is opened is left before those around it. -/
theorem Unwinds.exists_rounds {s s₁ s' : State} {f : Frame} {rest : List Value}
    (hopens : Opens inclusion layer t s f rest s₁)
    (h : Unwinds inclusion layer t (f :: s.loops) s₁ s') :
    ∃ s₂, Rounds inclusion layer t f s.loops rest s₁ s₂ ∧
      Unwinds inclusion layer t s.loops s₂ s' := by
  cases h with
  | @rounds _ _ _ s₂ _ hrounds hrest =>
    obtain ⟨first, hitems, -⟩ := hopens.context
    rw [hopens.current, hitems, List.drop_succ_cons, List.drop_zero] at hrounds
    exact ⟨s₂, hrounds, hrest⟩

/-- The open loops are left in the same order after a turn that leaves them as
they are. -/
theorem Unwinds.of_step {loops : List Frame} {s s₁ s' : State} {p : Piece}
    (hlead : Leads inclusion layer t s s₁) (hp : t.pieces[s.cursor]? = some p)
    (hloops : s₁.loops = s.loops)
    (hcontext : p.directive.kind ≠ .component → s₁.context = s.context)
    (h : Unwinds inclusion layer t loops s₁ s') : Unwinds inclusion layer t loops s s' := by
  cases h with
  | whole h => exact .whole (.step hlead hp hloops hcontext h)
  | rounds hrounds hrest => exact .rounds (hrounds.of_step hlead hp hloops hcontext) hrest

/-- They are left after a loop that is opened inside of them. -/
theorem Unwinds.of_opens {loops : List Frame} {s s₁ s₂ s' : State} {f : Frame}
    {rest : List Value} (hopens : Opens inclusion layer t s f rest s₁)
    (hrounds : Rounds inclusion layer t f s.loops rest s₁ s₂)
    (h : Unwinds inclusion layer t loops s₂ s') : Unwinds inclusion layer t loops s s' := by
  cases h with
  | whole h => exact .whole (.loop hopens hrounds h)
  | rounds hrounds' hrest => exact .rounds (.of_opens hopens hrounds hrounds') hrest

/-- The loop that a move enters is opened by it. -/
theorem opens_of_loopHeader {s : State} {p : Piece} {binding? : Option String} {k : Nat}
    {first : Value} {rest : List Value} {s' : State} (hlead : Leads inclusion layer t s s')
    (hp : t.pieces[s.cursor]? = some p) (hkind : p.directive.kind = .loop)
    (hentry : s.isReentry = false)
    (hheader : loopHeader t.directives p.directive s.cursor s.context =
      .ok (binding?, k, first :: rest))
    (hloops : s'.loops = ⟨s.cursor, p.directive, binding?, first :: rest, 0⟩ :: s.loops)
    (hcontext : s'.context = (s.bind binding? first).context) :
    Opens inclusion layer t s ⟨s.cursor, p.directive, binding?, first :: rest, 0⟩ rest s' := by
  obtain ⟨name, -, hbinding, -, -⟩ := loopHeader_eq_ok.1 hheader
  exact {
    leads := hlead
    opener := ⟨p, hp, rfl⟩
    kind := hkind
    isReentry := hentry
    origin := rfl
    binding? := Variable.mapM_bindingName_eq_ok hbinding
    current := rfl
    sequence := Variable.lookup?_of_loopHeader hheader
    loops := hloops
    context := ⟨first, rfl, hcontext⟩ }

/-- **Turns that come to an end with no loop open leave every loop that is open.** -/
theorem unwinds_of_reaches {s last : State} (h : Reaches inclusion layer t s last)
    (hlast : last.loops = []) : Unwinds inclusion layer t s.loops s last := by
  induction h using Relation.ReflTransGen.head_induction_on with
  | refl =>
    rw [hlast]
    exact .whole (.done _)
  | @head s s₁ hlead _ ih =>
    obtain ⟨events, hgo⟩ := hlead
    obtain ⟨p, hp, -, hmove⟩ := move_of_turn hgo
    cases hmove with
    | pass text context _ _ hcontext =>
      refine .of_step ⟨events, hgo⟩ hp rfl (fun hkind => ?_) ih
      rcases hcontext with rfl | ⟨name, hcomponent, -⟩
      · rfl
      · exact absurd hcomponent hkind
    | skip b k _ _ => exact .of_step ⟨events, hgo⟩ hp rfl (fun _ => rfl) ih
    | enter binding? k first rest hkind hentry hheader =>
      have hopens := opens_of_loopHeader ⟨events, hgo⟩ hp hkind hentry hheader rfl rfl
      obtain ⟨s₂, hrounds, hrest⟩ := ih.exists_rounds hopens
      exact hrest.of_opens hopens hrounds
    | turnBack f outer item _ hloops hitem =>
      rw [hloops]
      cases ih with
      | rounds hrounds hrest =>
        refine .rounds ?_ hrest
        obtain ⟨hlt, rfl⟩ := List.getElem?_eq_some_iff.1 hitem
        rw [List.drop_eq_getElem_cons hlt]
        exact .next (.done s) hloops hitem ⟨events, hgo⟩ rfl rfl hrounds
    | leave f outer _ hloops hitem =>
      rw [hloops]
      refine .rounds ?_ ih
      rw [List.drop_eq_nil_of_le (List.getElem?_eq_none_iff.1 hitem)]
      exact .last (.done s) hloops hitem ⟨events, hgo⟩ rfl rfl

/-- A loop that is come to and not gone back to is opened, unless its sequence
is empty: then it is passed over and nothing is stored. -/
theorem opens_or_of_leads {s s' : State} {p : Piece} (hlead : Leads inclusion layer t s s')
    (hp : t.pieces[s.cursor]? = some p) (hkind : p.directive.kind = .loop)
    (hentry : s.isReentry = false) :
    (∃ f rest, Opens inclusion layer t s f rest s') ∨
      ∃ name, p.directive.argument? 0 = some name ∧
        s.context.lookup? name = some (.sequence []) ∧
        s'.loops = s.loops ∧ s'.context = s.context := by
  obtain ⟨events, hgo⟩ := hlead
  obtain ⟨q, flow, hq, -, hflow, rfl⟩ := flow_of_go hgo
  obtain rfl : p = q := Option.some.inj (hp.symm.trans hq)
  have hopen : dispatch inclusion layer t.directives s p.directive =
      openLoop layer t.directives s p.directive := by
    unfold dispatch
    rw [hkind]
    dsimp only
    rw [hentry]
    rfl
  rw [hopen] at hgo hflow ⊢
  unfold openLoop at hgo hflow ⊢
  cases hheader : loopHeader t.directives p.directive s.cursor s.context with
  | error e =>
    rw [hheader] at hflow
    cases hflow
  | ok header =>
    obtain ⟨binding?, k, items⟩ := header
    cases items with
    | nil =>
      obtain ⟨name, hname, hlookup⟩ := Variable.lookup?_of_loopHeader hheader
      rw [hheader] at hflow
      obtain rfl : Flow.skipTo k = flow := Except.ok.inj hflow
      exact .inr ⟨name, hname, hlookup, rfl, rfl⟩
    | cons first rest =>
      rw [hheader] at hgo hflow
      obtain rfl : Flow.next = flow := Except.ok.inj hflow
      exact .inl ⟨_, rest, opens_of_loopHeader ⟨events, hgo⟩ hp hkind hentry hheader rfl rfl⟩

/-- Only an opening puts a loop on top of those that are open. -/
theorem opens_of_loops_eq {s s' : State} {f : Frame} (hlead : Leads inclusion layer t s s')
    (hloops : s'.loops = f :: s.loops) : ∃ rest, Opens inclusion layer t s f rest s' := by
  obtain ⟨events, hgo⟩ := hlead
  obtain ⟨p, hp, -, hmove⟩ := move_of_turn hgo
  have hlength : s'.loops.length = s.loops.length + 1 := by rw [hloops, List.length_cons]
  cases hmove with
  | pass text context _ _ _ => exact absurd hlength (Nat.ne_of_lt (Nat.lt_succ_self _))
  | skip b k _ _ => exact absurd hlength (Nat.ne_of_lt (Nat.lt_succ_self _))
  | enter binding? k first rest hkind hentry hheader =>
    obtain ⟨rfl, -⟩ := List.cons.inj hloops
    exact ⟨rest, opens_of_loopHeader ⟨events, hgo⟩ hp hkind hentry hheader rfl rfl⟩
  | turnBack g outer item _ hl _ =>
    rw [hl] at hlength
    exact absurd hlength (Nat.ne_of_lt (Nat.lt_succ_self _))
  | leave g outer _ hl _ =>
    rw [hl] at hlength
    exact absurd (show outer.length = outer.length + 1 + 1 from hlength) (by omega)

/-- What is true of the loops of turns from `s₀` on that come to an end in `last`. -/
structure LoopsGoneThrough (inclusion : Inclusion) (layer : Nat) (t : Template)
    (s₀ last : State) : Prop where
  /-- All of the turns are whole. -/
  whole : Whole inclusion layer t s₀ last
  /-- Every loop that is put on top is opened over the items of its sequence and
  has a round for each before it is left, and those around it are left after it. -/
  rounds : ∀ {s s' : State} {f : Frame}, Reaches inclusion layer t s₀ s →
    Leads inclusion layer t s s' → s'.loops = f :: s.loops →
    ∃ rest s'', Opens inclusion layer t s f rest s' ∧
      Rounds inclusion layer t f s.loops rest s' s'' ∧
      Unwinds inclusion layer t s.loops s'' last
  /-- Every loop that is come to and not gone back to is put on top, unless its
  sequence is empty: then no loop is opened and nothing is stored. -/
  opened : ∀ {s s' : State} {p : Piece}, Reaches inclusion layer t s₀ s →
    Leads inclusion layer t s s' → t.pieces[s.cursor]? = some p → p.directive.kind = .loop →
    s.isReentry = false →
    (∃ f, s'.loops = f :: s.loops) ∨
      ∃ name, p.directive.argument? 0 = some name ∧
        s.context.lookup? name = some (.sequence []) ∧
        s'.loops = s.loops ∧ s'.context = s.context

/-- **Turns that come to an end with no loop open go through every loop.** -/
theorem loopsGoneThrough_of_reaches {s₀ last : State} {r : Run}
    (hreach : Reaches inclusion layer t s₀ last) (hhalt : turn inclusion layer t last = .halt r)
    (hstart : s₀.loops = []) (hlast : last.loops = []) :
    LoopsGoneThrough inclusion layer t s₀ last where
  whole := by
    have hunwinds := unwinds_of_reaches hreach hlast
    rw [hstart] at hunwinds
    cases hunwinds with
    | whole h => exact h
  rounds := by
    intro s s' f hs hlead hloops
    obtain ⟨rest, hopens⟩ := opens_of_loops_eq hlead hloops
    have hs' : Reaches inclusion layer t s' last := hreach.of_halt hhalt (hs.trans hlead.reaches)
    have hunwinds := unwinds_of_reaches hs' hlast
    rw [hloops] at hunwinds
    obtain ⟨s'', hrounds, hrest⟩ := hunwinds.exists_rounds hopens
    exact ⟨rest, s'', hopens, hrounds, hrest⟩
  opened := by
    intro s s' p _ hlead hp hkind hentry
    rcases opens_or_of_leads hlead hp hkind hentry with ⟨f, _, hopens⟩ | hempty
    · exact .inl ⟨f, hopens.loops⟩
    · exact .inr hempty

/-- A render that succeeds comes to an end with no loop open. -/
theorem exists_reaches_of_ok {context x : Context} {output : String}
    (h : (run inclusion layer t context).outcome = (.ok output, x)) :
    ∃ last, Reaches inclusion layer t (start t context) last ∧
      turn inclusion layer t last = .halt (finish last) ∧
      last.loops = [] ∧ last.output = output ∧ last.context = x := by
  have hend : Ends inclusion layer t (start t context) (.ok output, x) := h ▸ ends_run t context
  obtain ⟨last, r, hreach, hhalt, hr⟩ := hend.exists_halt
  rcases outcome_of_halt hhalt with ⟨hp, ho⟩ | ⟨p, -, ⟨-, ho⟩ | ⟨-, e, -, ho⟩⟩
  · refine ⟨last, hreach, ?_, finish_eq_ok (ho.symm.trans hr)⟩
    unfold turn
    rw [hp]
  · rw [ho] at hr
    cases hr
  · rw [ho] at hr
    cases hr

end Machine

namespace Render

open Machine (LoopsGoneThrough finish start)

/-- **No iteration is lost or repeated.**  In a render that succeeds every loop
that is opened is left in the same render, after a round for each item that its
sequence had when it was opened; loops are left in the opposite order; and a loop
over an empty sequence is not opened.  Nothing is assumed of the text, and a
component is a render of its own, of which the same is true. -/
theorem loopsGoneThrough_of_renderAt_ok (settings : Settings) (loader : Loader) (layer : Nat)
    {text output : String} {context x : Context}
    (h : (renderAt settings loader layer text context).outcome = (.ok output, x)) :
    ∃ last, LoopsGoneThrough (componentAt settings loader layer) layer (.ofText text)
        (start (.ofText text) context) last ∧
      last.loops = [] ∧ (finish last).outcome = (.ok output, x) := by
  rw [renderAt_eq_run] at h
  obtain ⟨last, hreach, hhalt, hloops, rfl, rfl⟩ := Machine.exists_reaches_of_ok h
  refine ⟨last, Machine.loopsGoneThrough_of_reaches hreach hhalt rfl hloops, hloops, ?_⟩
  unfold finish
  rw [hloops]
  rfl

/-- Two iterations may end at different directives: the condition holds in the
first, and in the second it hides the end that the first one met. -/
theorem loopsGoneThrough_of_renderAt_ok_hidden :
    (renderAt {} (.ofSources []) 0
      "[[ for:xs:x ]][[ if:x ]][[ x ]][[ endfor ]][[ endif ]]-[[ endfor ]]"
      ⟨[("xs", .sequence [.integer 1, .integer 0])]⟩).outcome =
        (.ok "1-", ⟨[("x", .integer 0), ("xs", .sequence [.integer 1, .integer 0])]⟩) ∧
    ∃ last, LoopsGoneThrough (componentAt {} (.ofSources []) 0) 0
        (.ofText "[[ for:xs:x ]][[ if:x ]][[ x ]][[ endfor ]][[ endif ]]-[[ endfor ]]")
        (start (.ofText "[[ for:xs:x ]][[ if:x ]][[ x ]][[ endfor ]][[ endif ]]-[[ endfor ]]")
          ⟨[("xs", .sequence [.integer 1, .integer 0])]⟩) last ∧
      last.loops = [] ∧ (finish last).outcome =
        (.ok "1-", ⟨[("x", .integer 0), ("xs", .sequence [.integer 1, .integer 0])]⟩) := by
  have hrun : (renderAt {} (.ofSources []) 0
      "[[ for:xs:x ]][[ if:x ]][[ x ]][[ endfor ]][[ endif ]]-[[ endfor ]]"
      ⟨[("xs", .sequence [.integer 1, .integer 0])]⟩).outcome =
        (.ok "1-", ⟨[("x", .integer 0), ("xs", .sequence [.integer 1, .integer 0])]⟩) := by cbv
  exact ⟨hrun, loopsGoneThrough_of_renderAt_ok {} _ 0 hrun⟩

end Render

end BracketTemplate
