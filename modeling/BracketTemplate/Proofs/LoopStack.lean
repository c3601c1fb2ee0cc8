/-
# The loops that are open when a directive is come to

Whether a loop directive opens a loop or passes one that has been gone back to is
told from the innermost open loop alone: it is passed if that loop began at the
cursor.  This is right because of the order in which the loops are open (`Sound`).
Nothing is assumed of the text, whose blocks may cross:

| turn | the cursor | the innermost loop after it began |
| --- | --- | --- |
| to the next directive, past a block | goes forward | in front of the cursor |
| into a loop | goes forward | in front of the cursor, where it was |
| back to a loop | goes to where the loop began | at the cursor |

So a loop is at the cursor exactly if the last turn has gone back
(`isReentry_eq_cameBack`).  The loops around it began before it, and no directive
has two loops open.
-/

import BracketTemplate.Proofs.Budget

namespace BracketTemplate

namespace Machine

/-- Whether the last of some turns has gone back to a loop. -/
def cameBack (turns : List (Nat × Flow)) : Bool := turns.getLast?.any fun turn => turn.2.isRewind

variable {inclusion : Inclusion} {layer : Nat} {t : Template} {s s' : State} {p : Piece}

/-- Where all open loops began in front of the cursor none has been gone back to. -/
theorem isReentry_of_origin_lt (h : ∀ f ∈ s.loops, f.origin < s.cursor) :
    s.isReentry = false := by
  refine Bool.eq_false_iff.2 fun hentry => ?_
  obtain ⟨f, outer, hloops, horigin⟩ := isReentry_iff.1 hentry
  have := h f (by rw [hloops]; exact List.mem_cons_self)
  omega

/-- After a step all open loops began in front of the cursor. -/
theorem isReentry_of_step (hs : Sound t s) (hmove : Move inclusion t p.directive s s')
    (hstep : s'.steps = s.steps + 1) : s'.isReentry = false := by
  refine isReentry_of_origin_lt fun f hf => ?_
  cases hmove with
  | pass text context _ _ _ => exact Nat.lt_succ_of_le (hs.origin_le f hf)
  | skip b k _ hclose =>
    have hle : f.origin ≤ s.cursor := hs.origin_le f hf
    have hlt := (b.exists_of_close? hclose).1
    rw [advance_cursor]
    omega
  | enter binding? k first rest _ _ _ =>
    rw [advance_cursor]
    rcases List.mem_cons.1 hf with rfl | hf
    · exact Nat.lt_succ_self _
    · exact Nat.lt_succ_of_le (hs.origin_le f hf)
  | turnBack g outer item _ _ _ =>
    rw [State.bind_steps] at hstep
    omega
  | leave g outer _ hloops _ =>
    have hf' : f ∈ s.loops := by rw [hloops]; exact List.mem_cons_of_mem g hf
    exact Nat.lt_succ_of_le (hs.origin_le f hf')

/-- **A loop counts as gone back to exactly if the last turn has gone back.** -/
theorem isReentry_eq_cameBack {context : Context} {turns : List (Nat × Flow)}
    (h : Course inclusion layer t (start t context) turns s) : s.isReentry = cameBack turns := by
  cases h with
  | start => rfl
  | @turn turns s s' p flow hcourse hp hflow hlead =>
    have hs : Sound t s := (spent_of_course hcourse).1
    have hback : cameBack (turns ++ [(s.cursor, flow)]) = flow.isRewind := by
      rw [cameBack, List.getLast?_concat]
      rfl
    rw [hback]
    cases hrewind : flow.isRewind with
    | true =>
      obtain ⟨origin, rfl⟩ : ∃ origin, flow = .rewind origin := by
        cases flow <;> first | exact ⟨_, rfl⟩ | cases hrewind
      exact (isReentry_of_rewind hs hp hflow hlead).2.2.1
    | false =>
      have hstep := (steps_of_leads hp hflow hlead).2
      rw [hrewind] at hstep
      obtain ⟨events, hgo⟩ := hlead
      obtain ⟨q, -, -, hmove⟩ := move_of_turn hgo
      exact isReentry_of_step hs hmove hstep

/-- The open loops of a render, from the outermost in, are in the order of the text. -/
theorem Sound.pairwise_origins (hs : Sound t s) :
    (s.loops.map (·.origin)).reverse.Pairwise (· < ·) := by
  rw [List.pairwise_reverse, List.pairwise_map]
  exact hs.ordered

/-- How the loops that are open stand after some turns, when the directive at the
cursor is come to. -/
structure LoopOrder (inclusion : Inclusion) (layer : Nat) (t : Template)
    (turns : List (Nat × Flow)) (s : State) : Prop where
  /-- Each of them belongs to a loop directive. -/
  opener : ∀ f ∈ s.loops, ∃ p, t.pieces[f.origin]? = some p ∧ p.directive.kind = .loop
  /-- Each has items, and stands at one of them. -/
  items : ∀ f ∈ s.loops, f.items ≠ [] ∧ f.current < f.items.length
  /-- From the outermost in, each begins behind the one before it. -/
  increasing : (s.loops.map (·.origin)).reverse.Pairwise (· < ·)
  /-- All begin in front of the directive, but for the innermost, which may begin at it. -/
  before : ∀ f ∈ s.loops,
    f.origin < s.cursor ∨ ((∃ outer, s.loops = f :: outer) ∧ f.origin = s.cursor)
  /-- It begins there exactly if the last turn has gone back. -/
  back : (∃ f outer, s.loops = f :: outer ∧ f.origin = s.cursor) ↔ cameBack turns = true
  /-- No directive has two loops open. -/
  once : (s.loops.map (·.origin)).Nodup
  /-- A loop directive is passed if it has been gone back to, and else it opens a loop. -/
  reentry : ∀ p, t.pieces[s.cursor]? = some p → p.directive.kind = .loop →
    dispatch inclusion layer t.directives s p.directive =
      if cameBack turns then ⟨.ok .next, s, []⟩ else openLoop layer t.directives s p.directive

/-- A loop directive is passed or opens a loop. -/
theorem dispatch_of_loop {d : Directive} (hkind : d.kind = .loop) :
    dispatch inclusion layer t.directives s d =
      if s.isReentry then ⟨.ok .next, s, []⟩ else openLoop layer t.directives s d := by
  unfold dispatch
  rw [hkind]

end Machine

namespace Render

open Machine (Course Ends LoopOrder start)

/-- **The open loops of a render are in order.**  Whenever a directive is come to, in
a text whose blocks may be as they like, the loops that are open belong to loop
directives, each behind the one before it and in front of the cursor; only the
innermost may begin at the cursor, and does exactly if the last turn has gone back.
So no directive has two loops open, and a loop directive is passed exactly if it has
been gone back to.  The turns are those of the render, which goes on from there to
what it comes to; a component is a render of its own, of which the same is true. -/
theorem openLoops_inOrder (settings : Settings) (loader : Loader) (layer : Nat) (text : String)
    (context : Context) {turns : List (Nat × Flow)} {s : State}
    (hcourse : Course (componentAt settings loader layer) layer (.ofText text)
      (start (.ofText text) context) turns s) :
    LoopOrder (componentAt settings loader layer) layer (.ofText text) turns s ∧
      Ends (componentAt settings loader layer) layer (.ofText text) s
        (renderAt settings loader layer text context).outcome := by
  have hs : Machine.Sound (.ofText text) s := (Machine.spent_of_course hcourse).1
  have hback := Machine.isReentry_eq_cameBack hcourse
  constructor
  · exact {
      opener := fun f hf => by
        obtain ⟨p, hp, hkind, -⟩ := hs.opener f hf
        exact ⟨p, hp, hkind⟩
      items := fun f hf =>
        ⟨List.ne_nil_of_length_pos (Nat.zero_lt_of_lt (hs.current_lt f hf)), hs.current_lt f hf⟩
      increasing := hs.pairwise_origins
      before := fun f hf => hs.origin_lt_or hf
      back := by rw [← hback, Machine.isReentry_iff]
      once := List.nodup_reverse.1 (hs.pairwise_origins.imp Nat.ne_of_lt)
      reentry := fun p _ hkind => by rw [Machine.dispatch_of_loop hkind, hback] }
  · rw [renderAt_eq_run]
    exact (Machine.ends_run _ context).of_reaches hcourse.reaches

/-- A condition that does not hold hides the beginning of a second loop, and the end
of that one goes back to the first. -/
theorem openLoops_inOrder_hidden :
    ∃ s, Course (componentAt {} (.ofSources []) 0) 0
        (.ofText "[[ for:xs:x ]][[ if:x ]][[ for:xs ]][[ endif ]][[ endfor ]][[ endfor ]]")
        (start (.ofText "[[ for:xs:x ]][[ if:x ]][[ for:xs ]][[ endif ]][[ endfor ]][[ endfor ]]")
          ⟨[("xs", .sequence [.null, .bool true])]⟩)
        [(0, .next), (1, .skipTo 3), (4, .rewind 0)] s ∧
      s.loops.map (·.origin) = [0] ∧ s.cursor = 0 ∧
      LoopOrder (componentAt {} (.ofSources []) 0) 0
        (.ofText "[[ for:xs:x ]][[ if:x ]][[ for:xs ]][[ endif ]][[ endfor ]][[ endfor ]]")
        [(0, .next), (1, .skipTo 3), (4, .rewind 0)] s := by
  generalize ht : Template.ofText
    "[[ for:xs:x ]][[ if:x ]][[ for:xs ]][[ endif ]][[ endfor ]][[ endfor ]]" = t
  have hopened : Course (componentAt {} (.ofSources []) 0) 0 t
      (start t ⟨[("xs", .sequence [.null, .bool true])]⟩) ([] ++ [(0, .next)])
      ⟨1, 1, [⟨0, ⟨"for", ["xs", "x"], 0, 14, 1⟩, some "x", [.null, .bool true], 0⟩], "",
        ⟨[("x", .null), ("xs", .sequence [.null, .bool true])]⟩⟩ := by
    subst ht
    refine .turn (p := ⟨⟨"for", ["xs", "x"], 0, 14, 1⟩, []⟩) .start ?_ ?_
      ⟨[⟨0, .reached 0 .loop 1⟩, ⟨0, .bound 0 "x" .null⟩, ⟨0, .opened 0 2⟩], ?_⟩
    all_goals cbv
  have hskipped : Course (componentAt {} (.ofSources []) 0) 0 t
      (start t ⟨[("xs", .sequence [.null, .bool true])]⟩) ([(0, .next)] ++ [(1, .skipTo 3)])
      ⟨4, 2, [⟨0, ⟨"for", ["xs", "x"], 0, 14, 1⟩, some "x", [.null, .bool true], 0⟩], "",
        ⟨[("x", .null), ("xs", .sequence [.null, .bool true])]⟩⟩ := by
    subst ht
    refine .turn (p := ⟨⟨"if", ["x"], 14, 24, 1⟩, []⟩) hopened ?_ ?_
      ⟨[⟨0, .reached 1 .condition 1⟩], ?_⟩
    all_goals cbv
  have hback : Course (componentAt {} (.ofSources []) 0) 0 t
      (start t ⟨[("xs", .sequence [.null, .bool true])]⟩)
      ([(0, .next), (1, .skipTo 3)] ++ [(4, .rewind 0)])
      ⟨0, 2, [⟨0, ⟨"for", ["xs", "x"], 0, 14, 1⟩, some "x", [.null, .bool true], 1⟩], "",
        ⟨[("x", .bool true), ("xs", .sequence [.null, .bool true])]⟩⟩ := by
    subst ht
    refine .turn (p := ⟨⟨"endfor", [], 47, 59, 1⟩, []⟩) hskipped ?_ ?_
      ⟨[⟨0, .reached 4 .endLoop 1⟩, ⟨0, .bound 0 "x" (.bool true)⟩, ⟨0, .turned 0⟩], ?_⟩
    all_goals cbv
  subst ht
  exact ⟨_, hback, rfl, rfl, (openLoops_inOrder {} _ 0 _ _ hback).1⟩

end Render

end BracketTemplate
