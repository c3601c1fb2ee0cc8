/-
# A block that is left out

A condition that does not hold and a loop over no items lead to their end, and
nothing between is come to.  So a render goes by such a block as it would go by a
single directive that is of no block, a blank: it takes a step to the text behind
it, or fails over the opening (`turnBlank`, `dispatch_of_omits`).

What is in the block must not be seen from around it either.  The search for an
end sees through the block if its body is balanced, as it sees through the blank,
so the template with the blank is found again in the template with the block
(`blankReplay`).  The variable keeps the block out for as long as nothing is
stored under the first segment of its name, which is part of what every turn keeps
(`Kept`).

Then the turns with the blank are those with the block, whatever is in it
(`leads_of_turnBlank`, `halts_of_turnBlank`), and two renders with different
bodies come to the same (`unplaced_run_block`).
-/

import BracketTemplate.Proofs.Inlining
import BracketTemplate.Proofs.Provenance

namespace BracketTemplate

/-- An outcome without the line that its error names. -/
def Outcome.unplaced (o : Outcome) : Outcome := (o.1.mapError RenderError.unplaced, o.2)

/-- What is looked at in the opening of a block before its variable is read: that
it names one, and that the name to be bound is legal. -/
def Directive.checkOpening (d : Directive) : Except RenderError Unit := do
  let _ ← d.requiredArgument 0
  let _ ← d.bound?.mapM Variable.bindingName
  return ()

/-- A directive that stands for a block and is of none. -/
def Directive.blank : Directive := ⟨"component", [], 0, 0, 0⟩

theorem Directive.kind_blank : Directive.blank.kind = .component := rfl

/-- Whether a block over a variable is left out: a condition that does not hold,
or a loop over no items. -/
def Block.Omits (b : Block) (c : Context) (v : String) : Prop :=
  ∃ value, Variable.read c v = .ok value ∧
    match b with
    | .condition => value.isTruthy = false
    | .loop => value = .sequence []

namespace Template

/-- A block between its opening and its end. -/
def block (o : Directive) (B : Template) (c : Directive) : Template :=
  ((single o).append B).append (single c)

variable {P Q B : Template} {o c : Directive}

theorem length_block : (block o B c).pieces.length = B.pieces.length + 2 := by
  rw [block, length_append, length_append]
  change 1 + _ + 1 = _
  omega

theorem directives_block : (block o B c).directives = o :: (B.directives ++ [c]) := by
  rw [block, directives_append, directives_append]
  rfl

/-- Its opening, in front of a template and behind another. -/
theorem exists_getElem?_block (P Q B : Template) (o c : Directive) :
    ∃ literal, ((P.append (block o B c)).append Q).pieces[P.pieces.length]? =
      some ⟨o, literal⟩ := by
  refine ⟨((B.append (single c)).append Q).lead, ?_⟩
  rw [block, append_assoc (single o), ← append_assoc P, append_assoc, getElem?_single]

/-- And its end. -/
theorem getElem?_block_end (P Q B : Template) (o c : Directive) :
    ((P.append (block o B c)).append Q).pieces[P.pieces.length + B.pieces.length + 1]? =
      some ⟨c, Q.lead⟩ := by
  have hlength : P.pieces.length + B.pieces.length + 1 =
      (P.append ((single o).append B)).pieces.length := by
    rw [length_append, length_append]
    change _ = _ + (1 + _)
    omega
  rw [block, ← append_assoc P, hlength, getElem?_single]

/-- A block is closed at its end. -/
theorem close?_block {b : Block} (hc : c.kind = b.closer) (hB : b.Balanced B.directives) :
    b.close? ((P.append (block o B c)).append Q).directives P.pieces.length =
      some (P.pieces.length + B.pieces.length + 1) := by
  have hclose := b.close?_of_balanced P.directives o hB hc Q.directives
  rw [length_directives, length_directives] at hclose
  rw [directives_append, directives_append, directives_block, List.append_assoc, List.cons_append,
    List.append_assoc, List.singleton_append, hclose]

end Template

namespace Machine

variable {inclusion : Inclusion} {layer : Nat} {b : Block} {o c : Directive} {v : String}
  {P Q Q' B : Template}

/-- The argument that an opening cannot do without is its first. -/
theorem eq_of_requiredArgument {name : String} (hv : o.args[0]? = some v)
    (hname : o.requiredArgument 0 = .ok name) : name = v := by
  have hargument := (Option.filter_eq_some_iff.1 (Directive.requiredArgument_eq_ok.1 hname)).1
  rw [hv] at hargument
  exact (Option.some.inj hargument).symm

/-- A condition that does not hold leads to its end, if there is nothing wrong with
its opening. -/
theorem conditionFlow_of_omits {directives : List Directive} {index k : Nat} {context : Context}
    (hkind : o.kind = .condition) (hv : o.args[0]? = some v)
    (homits : Block.condition.Omits context v)
    (hclose : Block.condition.close? directives index = some k) :
    conditionFlow directives o index context = o.checkOpening.map fun _ => .skipTo k := by
  obtain ⟨value, hread, hvalue⟩ := homits
  have hbound : o.bound? = none := by
    unfold Directive.bound?
    rw [hkind]
  unfold Directive.checkOpening
  rw [hbound]
  cases hrequired : o.requiredArgument 0 with
  | error e =>
    unfold conditionFlow
    rw [hrequired]
    rfl
  | ok name =>
    obtain rfl := eq_of_requiredArgument hv hrequired
    exact conditionFlow_eq_ok.2 ⟨name, k, value, hrequired, hclose, hread,
      (if_neg (Bool.eq_false_iff.1 hvalue)).symm⟩

/-- A loop over no items has none and leads to its end, if there is nothing wrong
with its opening. -/
theorem loopHeader_of_omits {directives : List Directive} {index k : Nat} {context : Context}
    (hkind : o.kind = .loop) (hv : o.args[0]? = some v) (homits : Block.loop.Omits context v)
    (hclose : Block.loop.close? directives index = some k) :
    (loopHeader directives o index context).map Prod.snd =
      o.checkOpening.map fun _ => (k, []) := by
  obtain ⟨value, hread, hvalue⟩ := homits
  unfold Directive.checkOpening
  rw [Directive.bound?_of_loop hkind]
  cases hrequired : o.requiredArgument 0 with
  | error e =>
    unfold loopHeader
    rw [hrequired]
    rfl
  | ok name =>
    obtain rfl := eq_of_requiredArgument hv hrequired
    cases hbinding : (o.argument? 1).mapM Variable.bindingName with
    | error e =>
      unfold loopHeader
      rw [hrequired, hbinding]
      rfl
    | ok binding? =>
      have hitems : Variable.readItems context name o.line = .ok [] :=
        Variable.readItems_eq_ok.2 (hread.trans (congrArg Except.ok hvalue))
      rw [loopHeader_eq_ok.2 ⟨name, hrequired, hbinding, hclose, hitems⟩]
      rfl

/-- **The opening of a block that is left out leads to its end**, if there is
nothing wrong with it. -/
theorem dispatch_of_omits {directives : List Directive} {s : State} {k : Nat}
    (ho : o.kind = b.opener) (hv : o.args[0]? = some v) (homits : b.Omits s.context v)
    (hclose : b.close? directives s.cursor = some k) (hentry : s.isReentry = false) :
    dispatch inclusion layer directives s o =
      match o.checkOpening with
      | .ok _ => ⟨.ok (.skipTo k), s, []⟩
      | .error e => .fail s e := by
  unfold dispatch
  cases b with
  | condition =>
    have hkind : o.kind = .condition := ho
    rw [hkind]
    dsimp only
    rw [conditionFlow_of_omits hkind hv homits hclose]
    cases o.checkOpening <;> rfl
  | loop =>
    have hkind : o.kind = .loop := ho
    have hheader := loopHeader_of_omits hkind hv homits hclose
    rw [hkind, hentry]
    dsimp only
    rw [if_neg Bool.false_ne_true]
    unfold openLoop
    generalize loopHeader directives o s.cursor s.context = header at hheader ⊢
    cases hcheck : o.checkOpening with
    | error e =>
      rw [hcheck] at hheader
      cases header with
      | error e' =>
        obtain rfl := Except.error.inj hheader
        rfl
      | ok _ => cases hheader
    | ok _ =>
      rw [hcheck] at hheader
      cases header with
      | error e' => cases hheader
      | ok header =>
        obtain ⟨binding?, k', items⟩ := header
        obtain ⟨rfl, rfl⟩ := Prod.mk.inj (Except.ok.inj hheader)
        rfl

/-- Whether directives are the opening of a block and its end, around a template
whose own blocks pair up. -/
structure Encloses (b : Block) (o : Directive) (B : Template) (c : Directive) : Prop where
  opener : o.kind = b.opener
  closer : c.kind = b.closer
  balanced : ∀ b' : Block, b'.Balanced B.directives

theorem Encloses.balanced_block (h : Encloses b o B c) (b' : Block) :
    b'.Balanced (Template.block o B c).directives := by
  rw [Template.directives_block]
  exact b'.balanced_block (h.balanced b') h.opener h.closer

/-- Nothing is printed in front of a block. -/
theorem extraAround_block (P B Q' : Template) (o c : Directive) (i : Nat) :
    extraAround P (Template.block o B c) Q' i = [] := by
  have hseam : (Template.block o B c).seam Q' 0 = [] :=
    Template.seam_of_lt (by rw [Template.length_block]; exact Nat.succ_pos _)
  unfold extraAround
  rw [hseam]
  exact ite_self _

/-- The renders are compared after every error. -/
def NoExcuse (_ : RenderError) : Prop := False

/-- The templates in front of a block and behind it are found again when the
block takes the place of a blank. -/
def blankReplay (inclusion : Inclusion) (P : Template) (h : Encloses b o B c)
    (hlike : Template.Like RenderError.unplaced Q Q') :
    Replay inclusion inclusion ((P.append (.single .blank)).append Q)
      ((P.append (.block o B c)).append Q') :=
  { aroundReplay inclusion P Directive.kind_blank h.balanced_block hlike with
    excused := NoExcuse
    held_eq := .inl rfl
    close_none := fun {b' i} hi hk => by
      refine .inr ?_
      change b'.close? _ (placeAround P _ i) = none
      rw [close?_placeAround Directive.kind_blank h.balanced_block hlike b' hi]
      exact congrArg (Option.map _) hk
    included := fun _ _ _ => rfl }

/-- Both renders begin alike. -/
theorem blankReplay_start (h : Encloses b o B c)
    (hlike : Template.Like RenderError.unplaced Q Q') (context : Context) :
    (blankReplay inclusion P h hlike).Mirrors (start ((P.append (.single .blank)).append Q) context)
      (start ((P.append (.block o B c)).append Q') context) := by
  have hstart : (aroundReplay inclusion P Directive.kind_blank h.balanced_block hlike).Mirrors
      (start ((P.append (.single .blank)).append Q) context)
      (start ((P.append (.block o B c)).append Q') context) := aroundReplay_start ..
  exact ⟨hstart.cursor, ⟨[], rfl, .nil⟩, hstart.output, hstart.context⟩

/-- A turn of a template with a blank.  The blank is passed, if nothing is wrong
with the opening of the block that it stands for. -/
def turnBlank (inclusion : Inclusion) (layer : Nat) (P Q : Template) (o : Directive) (s : State) :
    Turn :=
  if s.cursor = P.pieces.length then
    if maxSteps < s.steps then .halt ⟨.error (.stepLimitExceeded maxSteps), s.context, []⟩
    else
      match o.checkOpening with
      | .ok _ => .go (advance ((P.append (.single .blank)).append Q) s s.cursor) []
      | .error e => .halt ⟨.error e, s.context, []⟩
  else turn inclusion layer ((P.append (.single .blank)).append Q) s

variable {h : Encloses b o B c} {hlike : Template.Like RenderError.unplaced Q Q'} {s s' : State}

/-- No loop is gone back to at a blank. -/
theorem isReentry_blank (hs : Sound ((P.append (.single .blank)).append Q) s)
    (hcursor : s.cursor = P.pieces.length) : s.isReentry = false := by
  refine Bool.eq_false_iff.2 fun hentry => ?_
  have hkind : Directive.blank.kind = .loop :=
    hs.kind_of_isReentry hentry (hcursor ▸ Template.getElem?_single P Q .blank)
  rw [Directive.kind_blank] at hkind
  cases hkind

/-- When the one render comes to the blank, the other one comes to the opening. -/
theorem cursor_block (hm : (blankReplay inclusion P h hlike).Mirrors s s')
    (hcursor : s.cursor = P.pieces.length) : s'.cursor = P.pieces.length := by
  rw [hm.cursor, hcursor]
  exact placeAround_of_le (Nat.le_refl _)

/-- The opening of the block is carried out for the blank. -/
theorem dispatch_block (hm : (blankReplay inclusion P h hlike).Mirrors s s')
    (hs : Sound ((P.append (.single .blank)).append Q) s) (hcursor : s.cursor = P.pieces.length)
    (hv : o.args[0]? = some v) (homits : b.Omits s.context v) :
    dispatch inclusion layer ((P.append (.block o B c)).append Q').directives s' o =
      match o.checkOpening with
      | .ok _ => ⟨.ok (.skipTo (P.pieces.length + B.pieces.length + 1)), s', []⟩
      | .error e => .fail s' e := by
  have hcursor' := cursor_block hm hcursor
  have hclose : b.close? ((P.append (.block o B c)).append Q').directives s'.cursor =
      some (P.pieces.length + B.pieces.length + 1) := by
    rw [hcursor']
    exact Template.close?_block h.closer (h.balanced b)
  have homits' : b.Omits s'.context v := by
    rw [hm.context]
    exact homits
  refine dispatch_of_omits h.opener hv homits' hclose (Bool.eq_false_iff.2 fun hentry' => ?_)
  obtain ⟨f', outer, hloops, horigin⟩ := isReentry_iff.1 hentry'
  obtain ⟨i, hi, hplace⟩ := hm.exists_origin_eq hs rfl (isReentry_blank hs hcursor)
    (by rw [hloops]; exact List.mem_cons_self)
  have hsame : f'.origin = i := hplace.trans (placeAround_of_le (by omega))
  omega

/-- The text behind the blank is the text behind the end of the block. -/
theorem mirrors_behind_block (hm : (blankReplay inclusion P h hlike).Mirrors s s')
    (hcursor : s.cursor = P.pieces.length) :
    (blankReplay inclusion P h hlike).Mirrors
      (advance ((P.append (.single .blank)).append Q) s s.cursor)
      (advance ((P.append (.block o B c)).append Q') s'
        (P.pieces.length + B.pieces.length + 1)) := by
  refine ⟨?_, hm.loops, ?_, hm.context⟩
  · change _ = placeAround P (.block o B c) (s.cursor + 1)
    rw [hcursor, placeAround_of_lt (Nat.lt_succ_self _), Template.length_block]
    rfl
  · have hout : s'.output = "" ++ (s.output ++
        String.ofList (extraAround P (.block o B c) Q' s.cursor)) := hm.output
    change (advance _ s' _).output = "" ++ ((advance _ s s.cursor).output ++
      String.ofList (extraAround P (.block o B c) Q' (s.cursor + 1)))
    rw [extraAround_block, String.empty_append, String.ofList_nil, String.append_empty] at hout ⊢
    unfold advance
    rw [Template.getElem?_block_end, hcursor, Template.getElem?_single]
    change s'.output ++ String.ofList Q'.lead = s.output ++ String.ofList Q.lead
    rw [hout, hlike.lead]

/-- **A turn of a template with a blank is a turn of one with the block.** -/
theorem leads_of_turnBlank (hm : (blankReplay inclusion P h hlike).Mirrors s s')
    (hsteps : s'.steps = s.steps) (hs : Sound ((P.append (.single .blank)).append Q) s)
    (hv : o.args[0]? = some v) (homits : b.Omits s.context v) {s₁ : State} {events : List Event}
    (hgo : turnBlank inclusion layer P Q o s = .go s₁ events) :
    ∃ s₁', Leads inclusion layer ((P.append (.block o B c)).append Q') s' s₁' ∧
      (blankReplay inclusion P h hlike).Mirrors s₁ s₁' ∧ s₁'.steps = s₁.steps := by
  unfold turnBlank at hgo
  split at hgo
  · rename_i hcursor
    split at hgo
    · cases hgo
    · rename_i hfew
      have hdispatch : dispatch inclusion layer _ s' o = _ := dispatch_block hm hs hcursor hv homits
      cases hcheck : o.checkOpening with
      | error e =>
        rw [hcheck] at hgo
        cases hgo
      | ok _ =>
        rw [hcheck] at hgo hdispatch
        obtain ⟨rfl, -⟩ := Turn.go.inj hgo
        obtain ⟨literal, hpiece⟩ := Template.exists_getElem?_block P Q' B o c
        rw [← cursor_block hm hcursor] at hpiece
        have hlead := leads_of_dispatch hpiece (by omega) (congrArg Dispatch.flow hdispatch)
        rw [hdispatch] at hlead
        exact ⟨_, hlead, mirrors_behind_block hm hcursor, congrArg (· + 1) hsteps⟩
  · rename_i hcursor
    obtain ⟨-, -, hfew, -⟩ := move_of_turn hgo
    obtain ⟨s₁', hlead, hm₁, hsteps₁⟩ := (blankReplay inclusion P h hlike).leads hm hs hcursor
      (by omega) ⟨events, hgo⟩
    exact ⟨s₁', hlead, hm₁, by omega⟩

/-- **Where a template with a blank ends, one with the block ends alike**, but for
the line in the error. -/
theorem halts_of_turnBlank (hm : (blankReplay inclusion P h hlike).Mirrors s s')
    (hsteps : s'.steps = s.steps) (hs : Sound ((P.append (.single .blank)).append Q) s)
    (hv : o.args[0]? = some v) (homits : b.Omits s.context v) {r : Run}
    (hhalt : turnBlank inclusion layer P Q o s = .halt r) :
    ∃ r', turn inclusion layer ((P.append (.block o B c)).append Q') s' = .halt r' ∧
      Outcome.unplaced r'.outcome = Outcome.unplaced r.outcome := by
  unfold turnBlank at hhalt
  split at hhalt
  · rename_i hcursor
    obtain ⟨literal, hpiece⟩ := Template.exists_getElem?_block P Q' B o c
    rw [← cursor_block hm hcursor] at hpiece
    split at hhalt
    · rename_i hmany
      obtain rfl := Turn.halt.inj hhalt
      obtain ⟨hlt, -⟩ := List.getElem?_eq_some_iff.1 hpiece
      exact ⟨_, turn_of_maxSteps_lt hlt (by omega), Prod.ext rfl hm.context⟩
    · rename_i hfew
      have hdispatch : dispatch inclusion layer _ s' o = _ := dispatch_block hm hs hcursor hv homits
      cases hcheck : o.checkOpening with
      | ok _ =>
        rw [hcheck] at hhalt
        cases hhalt
      | error e =>
        rw [hcheck] at hhalt hdispatch
        obtain rfl := Turn.halt.inj hhalt
        obtain ⟨events, hhalt'⟩ :=
          exists_halt_of_dispatch hpiece (by omega) (congrArg Dispatch.flow hdispatch)
        refine ⟨_, hhalt', ?_⟩
        rw [hdispatch]
        exact Prod.ext rfl hm.context
  · rename_i hcursor
    rcases outcome_of_halt hhalt with ⟨hp, ho⟩ | ⟨p, hp, ⟨hmany, ho⟩ | ⟨hfew, e, he, ho⟩⟩
    · have hlength : s.cursor = P.pieces.length + 1 + Q.pieces.length := by
        have hlength := Nat.le_antisymm hs.cursor_le (List.getElem?_eq_none_iff.1 hp)
        rwa [Template.length_append, Template.length_append] at hlength
      have hcursor' : s'.cursor = placeAround P (.block o B c) s.cursor := hm.cursor
      have hlength' : ((P.append (.block o B c)).append Q').pieces.length ≤ s'.cursor := by
        rw [hcursor', placeAround_of_lt (by omega), Template.length_append,
          Template.length_append, hlike.length_eq]
        omega
      refine ⟨_, turn_of_length_le hlength', ?_⟩
      obtain ⟨hagree, hcontext⟩ := hm.finish rfl (extraAround_block P B Q' o c _)
      rw [ho]
      exact Prod.ext hagree.mapError_eq hcontext
    · obtain ⟨p', hp', -⟩ := (blankReplay inclusion P h hlike).piece hp hcursor
      rw [← hm.cursor] at hp'
      obtain ⟨hlt, -⟩ := List.getElem?_eq_some_iff.1 hp'
      rw [ho]
      exact ⟨_, turn_of_maxSteps_lt hlt (by omega), Prod.ext rfl hm.context⟩
    · rcases (blankReplay inclusion P h hlike).exists_halt_of_error hm hs hcursor (by omega) hp he
        with hexcused | ⟨e', events, hview, hhalt'⟩
      · exact hexcused.elim
      · rw [ho]
        exact ⟨_, hhalt', Prod.ext (congrArg Except.error hview) rfl⟩

/-- A turn with the block is the one that the turn with the blank says. -/
theorem exists_turnBlank_of_leads (hm : (blankReplay inclusion P h hlike).Mirrors s s')
    (hsteps : s'.steps = s.steps) (hs : Sound ((P.append (.single .blank)).append Q) s)
    (hv : o.args[0]? = some v) (homits : b.Omits s.context v) {s₁' : State}
    (hlead : Leads inclusion layer ((P.append (.block o B c)).append Q') s' s₁') :
    ∃ s₁ events, turnBlank inclusion layer P Q o s = .go s₁ events ∧
      (blankReplay inclusion P h hlike).Mirrors s₁ s₁' ∧ s₁'.steps = s₁.steps := by
  obtain ⟨_, hgo⟩ := hlead
  cases hturn : turnBlank inclusion layer P Q o s with
  | go s₁ events =>
    obtain ⟨s₂, ⟨_, hgo₂⟩, hm₁, hsteps₁⟩ := leads_of_turnBlank hm hsteps hs hv homits hturn
    rw [hgo] at hgo₂
    obtain ⟨rfl, -⟩ := Turn.go.inj hgo₂
    exact ⟨s₁, events, rfl, hm₁, hsteps₁⟩
  | halt r =>
    obtain ⟨r', hhalt, -⟩ := halts_of_turnBlank hm hsteps hs hv homits hturn
    rw [hgo] at hhalt
    cases hhalt

/-- So is its end. -/
theorem exists_turnBlank_of_halt (hm : (blankReplay inclusion P h hlike).Mirrors s s')
    (hsteps : s'.steps = s.steps) (hs : Sound ((P.append (.single .blank)).append Q) s)
    (hv : o.args[0]? = some v) (homits : b.Omits s.context v) {r' : Run}
    (hhalt : turn inclusion layer ((P.append (.block o B c)).append Q') s' = .halt r') :
    ∃ r, turnBlank inclusion layer P Q o s = .halt r ∧
      Outcome.unplaced r'.outcome = Outcome.unplaced r.outcome := by
  cases hturn : turnBlank inclusion layer P Q o s with
  | go s₁ events =>
    obtain ⟨_, ⟨_, hgo⟩, -⟩ := leads_of_turnBlank hm hsteps hs hv homits hturn
    rw [hhalt] at hgo
    cases hgo
  | halt r =>
    obtain ⟨r₂, hhalt₂, hr⟩ := halts_of_turnBlank hm hsteps hs hv homits hturn
    rw [hhalt] at hhalt₂
    obtain rfl := Turn.halt.inj hhalt₂
    exact ⟨r, rfl, hr⟩

/-- Whether nothing around a block stores a value under a name. -/
structure Spares (inclusion : Inclusion) (P Q : Template) (x : String) : Prop where
  bound : ∀ d, d ∈ P.directives ∨ d ∈ Q.directives → d.bound? ≠ some x
  included : ∀ name context, Context.Stems (· ≠ x) context (inclusion name context).context

/-- What is true of every state of a template with a blank, if the context was
`context` at the beginning: the open loops are in order, and `x` is not stored. -/
structure Kept (P Q : Template) (x : String) (context : Context) (s : State) : Prop where
  sound : Sound ((P.append (.single .blank)).append Q) s
  stems : s.Stems (· ≠ x) context

variable {x : String} {context : Context}

theorem kept_start (P Q : Template) (x : String) (context : Context) :
    Kept P Q x context (start ((P.append (.single .blank)).append Q) context) where
  sound := sound_start _ context
  stems := ⟨.refl _ context, fun _ hf => absurd hf List.not_mem_nil,
    fun _ hf => absurd hf List.not_mem_nil⟩

/-- A turn keeps it true. -/
theorem Kept.of_turnBlank (hspares : Spares inclusion P Q x) (hs : Kept P Q x context s)
    {s₁ : State} {events : List Event}
    (hgo : turnBlank inclusion layer P Q o s = .go s₁ events) : Kept P Q x context s₁ := by
  unfold turnBlank at hgo
  split at hgo
  · rename_i hcursor
    split at hgo
    · cases hgo
    · split at hgo
      · obtain ⟨rfl, -⟩ := Turn.go.inj hgo
        refine ⟨hs.sound.step (List.suffix_refl _) (Nat.lt_succ_self _) ?_ rfl,
          hs.stems.context, hs.stems.bound, hs.stems.items⟩
        rw [advance_cursor, hcursor, Template.length_append, Template.length_append]
        exact Nat.le_add_right _ _
      · cases hgo
  · obtain ⟨p, hp, -, hmove⟩ := move_of_turn hgo
    refine ⟨hs.sound.move hp hmove, stems_of_move hs.stems (fun name hname _ => ?_)
      (fun name context _ => hspares.included name context) hmove⟩
    rintro rfl
    have hmem : p.directive ∈ ((P.append (.single .blank)).append Q).directives :=
      List.mem_map_of_mem (List.mem_of_getElem? hp)
    rw [Template.directives_append, Template.directives_append] at hmem
    rcases List.mem_append.1 hmem with hmem | hmem
    · rcases List.mem_append.1 hmem with hmem | hmem
      · exact hspares.bound _ (.inl hmem) hname
      · rw [List.mem_singleton.1 hmem] at hname
        cases hname
    · exact hspares.bound _ (.inr hmem) hname

variable {B' Q'' : Template} {c' : Directive} {h' : Encloses b o B' c'}
  {hlike' : Template.Like RenderError.unplaced Q Q''}

/-- Renders with different blocks that stand at the same state of the blank come to
the same. -/
theorem exists_ends_of_mirrors (hspares : Spares inclusion P Q x) (hv : o.args[0]? = some v)
    (homits : ∀ c, Context.Stems (· ≠ x) context c → b.Omits c v) {s s₁ s₂ : State}
    (hs : Kept P Q x context s) (hm₁ : (blankReplay inclusion P h hlike).Mirrors s s₁)
    (hsteps₁ : s₁.steps = s.steps) (hm₂ : (blankReplay inclusion P h' hlike').Mirrors s s₂)
    (hsteps₂ : s₂.steps = s.steps) {o₁ : Outcome}
    (hend : Ends inclusion layer ((P.append (.block o B c)).append Q') s₁ o₁) :
    ∃ o₂, Ends inclusion layer ((P.append (.block o B' c')).append Q'') s₂ o₂ ∧
      Outcome.unplaced o₂ = Outcome.unplaced o₁ := by
  induction hend generalizing s s₂ with
  | halt hhalt =>
    obtain ⟨r, hturn, hr₁⟩ :=
      exists_turnBlank_of_halt hm₁ hsteps₁ hs.sound hv (homits _ hs.stems.context) hhalt
    obtain ⟨r₂, hhalt₂, hr₂⟩ :=
      halts_of_turnBlank hm₂ hsteps₂ hs.sound hv (homits _ hs.stems.context) hturn
    exact ⟨_, .halt hhalt₂, hr₂.trans hr₁.symm⟩
  | go hgo _ ih =>
    obtain ⟨t, events, hturn, hmt₁, hstepst₁⟩ :=
      exists_turnBlank_of_leads hm₁ hsteps₁ hs.sound hv (homits _ hs.stems.context) ⟨_, hgo⟩
    obtain ⟨t₂, hlead₂, hmt₂, hstepst₂⟩ :=
      leads_of_turnBlank hm₂ hsteps₂ hs.sound hv (homits _ hs.stems.context) hturn
    obtain ⟨o₂, hend₂, ho⟩ := ih (hs.of_turnBlank hspares hturn) hmt₁ hstepst₁ hmt₂ hstepst₂
    exact ⟨o₂, hlead₂.reaches.ends hend₂, ho⟩

/-- **What a render with the block comes to does not depend on what is in the
block.** -/
theorem unplaced_run_block (hspares : Spares inclusion P Q x) (hv : o.args[0]? = some v)
    (homits : ∀ c, Context.Stems (· ≠ x) context c → b.Omits c v)
    (h : Encloses b o B c) (hlike : Template.Like RenderError.unplaced Q Q')
    (h' : Encloses b o B' c') (hlike' : Template.Like RenderError.unplaced Q Q'') :
    Outcome.unplaced (run inclusion layer ((P.append (.block o B c)).append Q') context).outcome =
      Outcome.unplaced
        (run inclusion layer ((P.append (.block o B' c')).append Q'') context).outcome := by
  have hend : Ends inclusion layer ((P.append (.block o B' c')).append Q'')
      (start ((P.append (.block o B' c')).append Q'') context)
      (run inclusion layer ((P.append (.block o B' c')).append Q'') context).outcome :=
    ends_run _ context
  obtain ⟨o₂, hend₂, ho⟩ := exists_ends_of_mirrors hspares hv homits (kept_start P Q x context)
    (blankReplay_start h' hlike' context) rfl (blankReplay_start h hlike context) rfl hend
  rw [run_outcome_of_ends hend₂, ho]

/-- Every state of a render with the block is one of the render with the blank. -/
theorem exists_mirrors_of_reaches (hspares : Spares inclusion P Q x) (hv : o.args[0]? = some v)
    (homits : ∀ c, Context.Stems (· ≠ x) context c → b.Omits c v)
    (h : Encloses b o B c) (hlike : Template.Like RenderError.unplaced Q Q')
    (hreach : Reaches inclusion layer ((P.append (.block o B c)).append Q')
      (start ((P.append (.block o B c)).append Q') context) s') :
    ∃ s, Kept P Q x context s ∧ (blankReplay inclusion P h hlike).Mirrors s s' ∧
      s'.steps = s.steps := by
  induction hreach with
  | refl => exact ⟨_, kept_start P Q x context, blankReplay_start h hlike context, rfl⟩
  | tail _ hlead ih =>
    obtain ⟨s, hs, hm, hsteps⟩ := ih
    obtain ⟨t, events, hturn, hmt, hstepst⟩ :=
      exists_turnBlank_of_leads hm hsteps hs.sound hv (homits _ hs.stems.context) hlead
    exact ⟨t, hs.of_turnBlank hspares hturn, hmt, hstepst⟩

/-- **No directive of the block is come to behind its opening.** -/
theorem cursor_of_reaches (hspares : Spares inclusion P Q x) (hv : o.args[0]? = some v)
    (homits : ∀ c, Context.Stems (· ≠ x) context c → b.Omits c v)
    (h : Encloses b o B c) (hlike : Template.Like RenderError.unplaced Q Q')
    (hreach : Reaches inclusion layer ((P.append (.block o B c)).append Q')
      (start ((P.append (.block o B c)).append Q') context) s') :
    s'.cursor ≤ P.pieces.length ∨ P.pieces.length + B.pieces.length + 1 < s'.cursor := by
  obtain ⟨s, -, hm, -⟩ := exists_mirrors_of_reaches hspares hv homits h hlike hreach
  have hcursor : s'.cursor = placeAround P (.block o B c) s.cursor := hm.cursor
  rcases Nat.lt_or_ge P.pieces.length s.cursor with hlt | hle
  · rw [placeAround_of_lt hlt, Template.length_block] at hcursor
    omega
  · rw [placeAround_of_le hle] at hcursor
    omega

end Machine

end BracketTemplate
