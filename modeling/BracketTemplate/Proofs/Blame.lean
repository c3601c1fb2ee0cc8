/-
# What an error says

An error of a render tells of a directive of one of its sources, and of the
context that the render leaves (`Blames`):

| error | the directive | the context |
| --- | --- | --- |
| missing argument | has no first argument, or an empty one | |
| illegal variable name | reads a name with `-`, or binds one with `-` or `.` | |
| undefined variable | reads a dotted name | has nothing under it |
| not a sequence | is a loop over it | has something else under it |
| unprintable value | prints it | has a value without text under it |
| unterminated block | opens a block that has no end, or a loop with an end hidden in it | |
| unmatched close | ends no loop, or one with a beginning hidden in front of it | |
| excessive recursion | includes the component | |
| step limit exceeded | comes after too many others, or its source has a loop | |
| source unavailable | includes a component that the loader fails to load | |

What is said of the context holds of the one that is left because a directive
that fails stores nothing (`blames_of_dispatch`), and the only directive that
stores something and fails is a component, whose own render has failed with that
context (`exists_blames_of_run`).  So the directive at fault is found by going
down into the components, layer by layer.
-/

import BracketTemplate.Loader.Files
import BracketTemplate.Proofs.Crossings
import BracketTemplate.Proofs.Layers
import BracketTemplate.Proofs.Mentions

namespace BracketTemplate

/-- Whether a loader fails in no other way than for want of a source. -/
def Loader.FailsUnavailable (loader : Loader) : Prop :=
  ∀ path e, loader path = .error e → ∃ missing reason, e = .sourceUnavailable missing reason

/-- Sources that are given fail in no other way. -/
theorem Loader.failsUnavailable_ofSources (sources : Entries String) :
    (ofSources sources).FailsUnavailable := by
  intro path e h
  unfold ofSources at h
  split at h
  · cases h
  · exact ⟨_, _, (Except.error.inj h).symm⟩

/-- Nor do files. -/
theorem Loader.failsUnavailable_ofFiles (read : String → Except FileFault String)
    (base : String) : (ofFiles read base).FailsUnavailable := by
  intro path e h
  unfold ofFiles at h
  split at h
  · cases h
  · exact ⟨_, _, (Except.error.inj h).symm⟩

namespace Machine

variable {inclusion : Inclusion} {layer : Nat} {directives : List Directive} {s : State}
  {d : Directive} {e : RenderError}

/-- A directive that prints fails if its text does. -/
theorem print_flow_eq_error {text : Except RenderError String}
    (h : (Dispatch.print s text).flow = .error e) :
    text = .error e ∧ (Dispatch.print s text).state = s := by
  cases text with
  | ok output => cases h
  | error e' => exact ⟨congrArg Except.error (Except.error.inj h), rfl⟩

/-- A component fails for want of its name, or because its render does. -/
theorem includeComponent_eq_error (h : (includeComponent inclusion s d).flow = .error e) :
    d.requiredArgument 0 = .error e ∨
      ∃ name, d.requiredArgument 0 = .ok name ∧ (inclusion name s.context).outcome =
        (.error e, (includeComponent inclusion s d).state.context) := by
  unfold includeComponent at h ⊢
  cases hname : d.requiredArgument 0 with
  | error e' =>
    rw [hname] at h
    exact .inl (congrArg Except.error (Except.error.inj h))
  | ok name =>
    rw [hname] at h
    dsimp only [takeOver] at h ⊢
    cases hresult : (inclusion name s.context).result with
    | ok output =>
      rw [hresult] at h
      cases h
    | error e' =>
      rw [hresult] at h
      obtain rfl : e' = e := Except.error.inj h
      exact .inr ⟨name, rfl, Prod.ext hresult rfl⟩

/-- A loop is not opened if its header is wrong. -/
theorem openLoop_eq_error (h : (openLoop layer directives s d).flow = .error e) :
    loopHeader directives d s.cursor s.context = .error e ∧
      (openLoop layer directives s d).state = s := by
  unfold openLoop at h ⊢
  split at h
  · rename_i e' hheader
    exact ⟨hheader.trans (congrArg Except.error (Except.error.inj h)), rfl⟩
  · cases h
  · cases h

/-- The end of a loop fails if none is open. -/
theorem closeLoop_eq_error (h : (closeLoop layer s d).flow = .error e) :
    s.loops = [] ∧ e = .unmatchedClose d.keyword d.line := by
  unfold closeLoop at h
  split at h
  · rename_i hloops
    exact ⟨hloops, (Except.error.inj h).symm⟩
  · split at h <;> cases h

/-- Without a loop no more steps are taken than directives are behind. -/
theorem steps_le_cursor_of_reaches {t : Template} {context : Context}
    (h : Reaches inclusion layer t (start t context) s) :
    s.steps ≤ s.cursor ∨ ∃ d ∈ t.directives, d.kind = .loop := by
  induction h with
  | refl => exact .inl (Nat.le_refl _)
  | @tail s s' hreach hlead ih =>
    rcases ih with ih | hloop
    swap
    · exact .inr hloop
    obtain ⟨events, hgo⟩ := hlead
    obtain ⟨p, hp, -, hmove⟩ := move_of_turn hgo
    cases hmove with
    | pass output context' _ _ _ => exact .inl (Nat.succ_le_succ ih)
    | skip b k _ hclose =>
      have hlt := (b.exists_of_close? hclose).1
      exact .inl (Nat.succ_le_succ (Nat.le_trans ih (Nat.le_of_lt hlt)))
    | enter binding? k first rest hkind _ _ =>
      exact .inr ⟨_, List.mem_of_getElem? (Template.directives_getElem? hp), hkind⟩
    | turnBack f outer item _ hloops _ =>
      -- a loop that is open is one of the text
      obtain ⟨hs, -⟩ := sound_and_tracked_of_reaches hreach
      obtain ⟨q, hq, hkind, -⟩ := hs.opener f (by rw [hloops]; exact List.mem_cons_self)
      exact .inr ⟨_, List.mem_of_getElem? (Template.directives_getElem? hq), hkind⟩
    | leave f outer _ _ _ => exact .inl (Nat.succ_le_succ ih)

end Machine

namespace Render

open Block (EndHidden StartHidden)
open Machine (maxSteps)

/-- Whether an error tells of the `i`-th directive of a source, when the context
`x` is left and components are refused at the layer `refused`. -/
def Blames (settings : Settings) (loader : Loader) (refused : Nat) (x : Context)
    (ds : List Directive) (i : Nat) (d : Directive) : RenderError → Prop
  | .missingArgument keyword line =>
    d.keyword = keyword ∧ d.line = line ∧
      (d.kind = .component ∨ d.kind = .loop ∨ d.kind = .condition ∨ d.kind = .html) ∧
      (d.args[0]? = none ∨ d.args[0]? = some "")
  | .illegalVariableName name =>
    (d.read? = some name ∧ '-' ∈ name.toList) ∨
      (d.bound? = some name ∧ ('-' ∈ name.toList ∨ '.' ∈ name.toList))
  | .undefinedVariable name =>
    d.read? = some name ∧ (∀ c ∈ name.toList, c.isAlphanum = true ∨ c = '_' ∨ c = '.') ∧
      x.lookup? name = none
  | .unterminatedBlock keyword line =>
    d.keyword = keyword ∧ d.line = line ∧
      ∃ b : Block, d.kind = b.opener ∧
        (b.close? ds i = none ∨
          b = .loop ∧ ∃ k, b.close? ds i = some k ∧ EndHidden ds i k)
  | .unmatchedClose keyword line =>
    d.keyword = keyword ∧ d.line = line ∧ d.kind = .endLoop ∧
      ((∀ k, ¬ Block.loop.Spans ds k i) ∨ StartHidden ds i)
  | .notASequence name line =>
    d.kind = .loop ∧ d.line = line ∧ d.read? = some name ∧
      ∃ value, x.lookup? name = some value ∧ ∀ items, value ≠ .sequence items
  | .unprintableValue name =>
    (d.kind = .variable ∨ d.kind = .html) ∧ d.read? = some name ∧
      ∃ value, x.lookup? name = some value ∧ value.text? = none
  | .excessiveRecursion component layer max =>
    d.component? = some component ∧ layer = refused ∧ max = maxLayer
  | .stepLimitExceeded limit =>
    limit = maxSteps ∧ (maxSteps < i ∨ ∃ d' ∈ ds, d'.kind = .loop)
  | .sourceUnavailable path reason =>
    ∃ name, d.component? = some name ∧
      loader (settings.componentPath name) = .error (.sourceUnavailable path reason)

variable {settings : Settings} {loader : Loader} {refused i : Nat} {x : Context}
  {ds : List Directive} {text name : String} {d : Directive} {e : RenderError}

/-- A directive that lacks its argument is at fault. -/
theorem blames_of_requiredArgument
    (hkind : d.kind = .component ∨ d.kind = .loop ∨ d.kind = .condition ∨ d.kind = .html)
    (h : d.requiredArgument 0 = .error e) : Blames settings loader refused x ds i d e := by
  obtain ⟨hnone, rfl⟩ := Directive.requiredArgument_eq_error.1 h
  exact ⟨rfl, rfl, hkind, Directive.argument?_eq_none.1 hnone⟩

/-- The character of a segment that no variable name has is `-`. -/
theorem eq_dash_of_isArgumentChar {c : Char} (h : Directive.isArgumentChar c = true)
    (hname : Variable.isNameChar c = false) (hdot : c ≠ '.') : c = '-' := by
  unfold Directive.isArgumentChar Directive.isBodyChar at h
  unfold Variable.isNameChar at hname
  simp only [Bool.and_eq_true, Bool.or_eq_true, beq_iff_eq, bne_iff_ne] at h
  simp only [Bool.or_eq_false_iff, beq_eq_false_iff_ne] at hname
  obtain ⟨(((halnum | h) | h) | h) | h, hcolon⟩ := h
  · rw [hname.1] at halnum
    cases halnum
  · exact absurd h hdot
  · exact absurd h hcolon
  · exact absurd h hname.2
  · exact h

/-- A directive whose variable cannot be read is at fault. -/
theorem blames_of_read (hd : d ∈ Directive.scan text) (hread : d.read? = some name)
    (h : Variable.read x name = .error e) : Blames settings loader refused x ds i d e := by
  rcases Variable.read_eq_error.1 h with ⟨hillegal, rfl⟩ | ⟨hlegal, hnone, rfl⟩
  · obtain ⟨c, hc, hbad⟩ := List.all_eq_false.1 hillegal
    obtain ⟨hchar, hdot⟩ : Variable.isNameChar c = false ∧ c ≠ '.' := by
      simpa using hbad
    have hsegment := Directive.isArgumentChar_of_mem hd (Directive.mem_of_read? hread) hc
    rw [eq_dash_of_isArgumentChar hsegment hchar hdot] at hc
    exact .inl ⟨hread, hc⟩
  · refine ⟨hread, fun c hc => ?_, hnone⟩
    have hchar := List.all_eq_true.1 hlegal c hc
    simpa [Variable.isNameChar, or_assoc] using hchar

/-- So is a loop that binds an illegal name. -/
theorem blames_of_bindingName (hd : d ∈ Directive.scan text) (hbound : d.bound? = some name)
    (h : Variable.isBindingName name = false) :
    Blames settings loader refused x ds i d (.illegalVariableName name) := by
  obtain ⟨c, hc, hbad⟩ := List.all_eq_false.1 h
  have hsegment := Directive.isArgumentChar_of_mem hd (Directive.mem_of_bound? hbound) hc
  refine .inr ⟨hbound, ?_⟩
  by_cases hdot : c = '.'
  · rw [hdot] at hc
    exact .inr hc
  · rw [eq_dash_of_isArgumentChar hsegment (Bool.not_eq_true _ ▸ hbad) hdot] at hc
    exact .inl hc

/-- A directive that prints a variable, and cannot, is at fault. -/
theorem blames_of_print (hd : d ∈ Directive.scan text)
    (hkind : d.kind = .variable ∨ d.kind = .html) (hread : d.read? = some name)
    (h : Variable.print x name = .error e) : Blames settings loader refused x ds i d e := by
  rcases Variable.print_eq_error.1 h with h | ⟨value, hvalue, htext, rfl⟩
  · exact blames_of_read hd hread h
  · exact ⟨hkind, hread, value, (Variable.read_eq_ok.1 hvalue).2, htext⟩

/-- A loop whose header is wrong is at fault. -/
theorem blames_of_loopHeader (hd : d ∈ Directive.scan text) (hkind : d.kind = .loop)
    (h : Machine.loopHeader ds d i x = .error e) :
    Blames settings loader refused x ds i d e := by
  unfold Machine.loopHeader at h
  rcases bind_eq_error.1 h with h | ⟨name, hname, h⟩
  · exact blames_of_requiredArgument (.inr (.inl hkind)) h
  have hread := Directive.read?_of_requiredArgument (.inr (.inr hkind)) hname
  rcases bind_eq_error.1 h with h | ⟨binding?, -, h⟩
  · obtain ⟨bound, hbound, hillegal, rfl⟩ := Variable.mapM_bindingName_eq_error h
    exact blames_of_bindingName hd ((Directive.bound?_of_loop hkind).trans hbound) hillegal
  rcases bind_eq_error.1 h with h | ⟨close, -, h⟩
  · obtain ⟨hclose, rfl⟩ := Machine.closing_eq_error.1 h
    exact ⟨rfl, rfl, .loop, hkind, .inl hclose⟩
  rcases bind_eq_error.1 h with h | ⟨items, -, h⟩
  · rcases Variable.readItems_eq_error.1 h with h | ⟨value, hvalue, hitems, rfl⟩
    · exact blames_of_read hd hread h
    · refine ⟨hkind, rfl, hread, value, (Variable.read_eq_ok.1 hvalue).2, ?_⟩
      rintro items rfl
      cases hitems
  · cases h

/-- A condition that cannot be decided is at fault. -/
theorem blames_of_conditionFlow (hd : d ∈ Directive.scan text) (hkind : d.kind = .condition)
    (h : Machine.conditionFlow ds d i x = .error e) :
    Blames settings loader refused x ds i d e := by
  unfold Machine.conditionFlow at h
  rcases bind_eq_error.1 h with h | ⟨name, hname, h⟩
  · exact blames_of_requiredArgument (.inr (.inr (.inl hkind))) h
  have hread := Directive.read?_of_requiredArgument (.inr (.inl hkind)) hname
  rcases bind_eq_error.1 h with h | ⟨close, -, h⟩
  · obtain ⟨hclose, rfl⟩ := Machine.closing_eq_error.1 h
    exact ⟨rfl, rfl, .condition, hkind, .inl hclose⟩
  rcases bind_eq_error.1 h with h | ⟨value, -, h⟩
  · exact blames_of_read hd hread h
  · cases h

/-- **A directive that fails is at fault, or a component that it includes has
failed.**  The context that it leaves is the one in which it has failed. -/
theorem blames_of_dispatch {inclusion : Inclusion} {layer : Nat} {s : State}
    (hd : d ∈ Directive.scan text)
    (h : (Machine.dispatch inclusion layer ds s d).flow = .error e)
    (hx : (Machine.dispatch inclusion layer ds s d).state.context = x)
    (hclose : d.kind = .endLoop → s.loops = [] →
      (∀ k, ¬ Block.loop.Spans ds k s.cursor) ∨ StartHidden ds s.cursor) :
    Blames settings loader refused x ds s.cursor d e ∨
      ∃ name, d.component? = some name ∧
        (inclusion name s.context).outcome = (.error e, x) := by
  unfold Machine.dispatch at h hx
  cases hkind : d.kind with
  | component =>
    simp only [hkind] at h hx
    rcases Machine.includeComponent_eq_error h with hname | ⟨name, hname, hcomponent⟩
    · exact .inl (blames_of_requiredArgument (.inl hkind) hname)
    · refine .inr ⟨name, ?_, by rw [hcomponent, hx]⟩
      rw [Directive.component?_of_component hkind]
      exact Directive.requiredArgument_eq_ok.1 hname
  | loop =>
    simp only [hkind] at h hx
    by_cases hentry : s.isReentry = true
    · rw [if_pos hentry] at h
      cases h
    · rw [if_neg hentry] at h hx
      obtain ⟨hheader, hs⟩ := Machine.openLoop_eq_error h
      rw [hs] at hx
      rw [hx] at hheader
      exact .inl (blames_of_loopHeader hd hkind hheader)
  | endLoop =>
    simp only [hkind] at h
    obtain ⟨hloops, rfl⟩ := Machine.closeLoop_eq_error h
    exact .inl ⟨rfl, rfl, hkind, hclose hkind hloops⟩
  | condition =>
    simp only [hkind] at h hx
    cases hflow : Machine.conditionFlow ds d s.cursor s.context with
    | ok flow =>
      rw [hflow] at h
      cases h
    | error e' =>
      rw [hflow] at h hx
      obtain rfl : e' = e := Except.error.inj h
      obtain rfl : s.context = x := hx
      exact .inl (blames_of_conditionFlow hd hkind hflow)
  | endCondition =>
    simp only [hkind] at h
    cases h
  | html =>
    simp only [hkind] at h hx
    obtain ⟨hprinted, hs⟩ := Machine.print_flow_eq_error h
    rw [hs] at hx
    rw [hx] at hprinted
    rcases bind_eq_error.1 hprinted with hname | ⟨name, hname, hprint⟩
    · exact .inl (blames_of_requiredArgument (.inr (.inr (.inr hkind))) hname)
    · have hread := Directive.read?_of_requiredArgument (.inl hkind) hname
      exact .inl (blames_of_print hd (.inr hkind) hread hprint)
  | «variable» =>
    simp only [hkind] at h hx
    obtain ⟨hprinted, hs⟩ := Machine.print_flow_eq_error h
    rw [hs] at hx
    rw [hx] at hprinted
    have hprint : Variable.print x d.keyword = .error e := by
      cases hvalue : Variable.print x d.keyword with
      | ok output =>
        rw [hvalue] at hprinted
        cases hprinted
      | error e' =>
        rw [hvalue] at hprinted
        exact hprinted
    exact .inl (blames_of_print hd (.inl hkind) (Directive.read?_of_variable hkind) hprint)

variable (settings loader refused) in
/-- **A render of one text that fails has a directive at fault, or has come to a
component that fails.** -/
theorem exists_blames_of_run {inclusion : Inclusion} {layer : Nat} {context : Context}
    (h : (Machine.run inclusion layer (.ofText text) context).outcome = (.error e, x)) :
    (∃ i d, (Directive.scan text)[i]? = some d ∧
      Blames settings loader refused x (Directive.scan text) i d e) ∨
    ∃ last p name,
      Machine.Reaches inclusion layer (.ofText text) (Machine.start (.ofText text) context) last ∧
      (Template.ofText text).pieces[last.cursor]? = some p ∧
      p.directive.component? = some name ∧
      (inclusion name last.context).outcome = (.error e, x) := by
  have hends : Machine.Ends inclusion layer (.ofText text)
      (Machine.start (.ofText text) context) (.error e, x) := h ▸ Machine.ends_run _ context
  obtain ⟨last, r, hreach, hhalt, hr⟩ := hends.exists_halt
  obtain ⟨hs, htracked⟩ := Machine.sound_and_tracked_of_reaches hreach
  rcases Machine.outcome_of_halt hhalt with ⟨hend, ho⟩ | ⟨p, hp, ho⟩
  · -- a loop is open at the end
    rw [hr] at ho
    unfold Machine.finish at ho
    split at ho
    · cases (Prod.mk.inj ho).1
    rename_i f outer hloops
    obtain rfl := Except.error.inj (Prod.mk.inj ho).1
    have hf : f ∈ last.loops := by rw [hloops]; exact List.mem_cons_self
    obtain ⟨q, hq, hkind, hopener⟩ := hs.opener f hf
    refine .inl ⟨f.origin, q.directive, Template.directives_getElem? hq, ?_⟩
    rw [hopener]
    exact ⟨rfl, rfl, .loop, hkind, (htracked.unterminated hend hf).imp_right fun h => ⟨rfl, h⟩⟩
  have hd := Template.directives_getElem? hp
  rcases ho with ⟨hsteps, ho⟩ | ⟨-, e', hflow, ho⟩
  · -- the steps are used up
    rw [hr] at ho
    obtain rfl := Except.error.inj (Prod.mk.inj ho).1
    refine .inl ⟨last.cursor, p.directive, hd, rfl,
      (Machine.steps_le_cursor_of_reaches hreach).imp_left fun hle => ?_⟩
    exact Nat.lt_of_lt_of_le hsteps hle
  · rw [hr] at ho
    obtain ⟨he, hx⟩ := Prod.mk.inj ho
    obtain rfl := Except.error.inj he
    rcases blames_of_dispatch (List.mem_of_getElem? hd) hflow hx.symm
      (fun _ hloops => htracked.unmatched hloops) with hblames | ⟨name, hname, hcomponent⟩
    · exact .inl ⟨last.cursor, p.directive, hd, hblames⟩
    · exact .inr ⟨last, p, name, hreach, hp, hname, hcomponent⟩

/-- **Every error tells the truth** about the text and about the context that is
left with it: there is a directive at fault, in the text or in a source that it
draws on. -/
theorem exists_blames_of_renderAt (hloader : loader.FailsUnavailable) {layer : Nat}
    {context : Context}
    (h : (renderAt settings loader layer text context).outcome = (.error e, x)) :
    ∃ source i d, Drawn settings loader text source ∧
      (Directive.scan source)[i]? = some d ∧
      Blames settings loader (max layer maxLayer + 1) x (Directive.scan source) i d e := by
  induction hleft : maxLayer - layer using Nat.strongRecOn
    generalizing layer text context with
  | ind left ih =>
    rw [renderAt_eq_run] at h
    rcases exists_blames_of_run settings loader (max layer maxLayer + 1) h with
      ⟨i, d, hd, hblames⟩ | ⟨last, p, name, -, hp, hname, hcomponent⟩
    · exact ⟨text, i, d, .self, hd, hblames⟩
    have hd : (Directive.scan text)[last.cursor]? = some p.directive :=
      Template.directives_getElem? hp
    by_cases hlayer : layer < maxLayer
    · cases hload : loader (settings.componentPath name) with
      | error e' =>
        unfold componentAt loadThen at hcomponent
        rw [if_pos hlayer, hload] at hcomponent
        obtain rfl : e' = e := Except.error.inj (Prod.mk.inj hcomponent).1
        obtain ⟨path, reason, rfl⟩ := hloader _ _ hload
        exact ⟨text, _, _, .self, hd, name, hname, hload⟩
      | ok source =>
        rw [outcome_componentAt settings loader hlayer hload] at hcomponent
        obtain ⟨source', i', d', hdrawn, hd', hblames⟩ := ih _ (by omega) hcomponent rfl
        refine ⟨source', i', d', .of_component (List.mem_of_getElem? hd) hname hload hdrawn,
          hd', ?_⟩
        have hrefused : max (layer + 1) maxLayer = max layer maxLayer := by omega
        rwa [hrefused] at hblames
    · rw [outcome_componentAt_of_le settings loader (Nat.le_of_not_lt hlayer)] at hcomponent
      obtain ⟨he, -⟩ := Prod.mk.inj hcomponent
      obtain rfl := Except.error.inj he
      refine ⟨text, _, _, .self, hd, hname, ?_, rfl⟩
      rw [Nat.max_eq_left (Nat.le_of_not_lt hlayer)]

/-- A component that prints the second of two items, which has no text. -/
theorem exists_blames_of_renderAt_component :
    (Loader.ofSources [("components/c.html", "[[ html:x ]];")]).FailsUnavailable ∧
    (renderAt {} (.ofSources [("components/c.html", "[[ html:x ]];")]) 3
        "[[ for:xs:x ]]\n[[ component:c ]][[ endfor ]]"
        ⟨[("xs", .sequence [.integer 1, .null])]⟩).outcome =
      (.error (.unprintableValue "x"),
        ⟨[("x", .null), ("xs", .sequence [.integer 1, .null])]⟩) ∧
    ∃ source i d,
      Drawn {} (.ofSources [("components/c.html", "[[ html:x ]];")])
        "[[ for:xs:x ]]\n[[ component:c ]][[ endfor ]]" source ∧
      (Directive.scan source)[i]? = some d ∧
      Blames {} (.ofSources [("components/c.html", "[[ html:x ]];")]) (max 3 maxLayer + 1)
        ⟨[("x", .null), ("xs", .sequence [.integer 1, .null])]⟩ (Directive.scan source) i d
        (.unprintableValue "x") := by
  have hloader := Loader.failsUnavailable_ofSources [("components/c.html", "[[ html:x ]];")]
  have hrun : (renderAt {} (.ofSources [("components/c.html", "[[ html:x ]];")]) 3
      "[[ for:xs:x ]]\n[[ component:c ]][[ endfor ]]"
      ⟨[("xs", .sequence [.integer 1, .null])]⟩).outcome =
        (.error (.unprintableValue "x"),
          ⟨[("x", .null), ("xs", .sequence [.integer 1, .null])]⟩) := by cbv
  exact ⟨hloader, hrun, exists_blames_of_renderAt hloader hrun⟩

end Render

end BracketTemplate
