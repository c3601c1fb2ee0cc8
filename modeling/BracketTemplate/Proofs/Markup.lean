/-
# No markup from values

What a render prints is made of pieces, and each comes from one of four places:

| piece | angle brackets in it |
| --- | --- |
| literal text of a source | those of the source |
| variable directive | none, they are spelled out |
| html directive | those of the value |
| component | those that its render prints |

So a render over sources without angle brackets and without html directives
prints none, whatever the context holds (`noAngles_of_reaches`, and through all
components `noAngles_of_renderAt`).
-/

import BracketTemplate.Proofs.AngleBrackets
import BracketTemplate.Proofs.Mentions
import BracketTemplate.Proofs.Rounds

namespace BracketTemplate

open Text (NoAngles)

/-- Whether a template has no angle bracket in its literal text and no directive
that prints one as it is. -/
structure Template.Plain (t : Template) : Prop where
  lead : NoAngles (String.ofList t.lead)
  literal : ∀ p ∈ t.pieces, NoAngles (String.ofList p.literal)
  kind : ∀ p ∈ t.pieces, p.directive.kind ≠ .html

/-- The template of a text has no other literal text than the text itself. -/
theorem Template.plain_ofText {text : String} (h : NoAngles text)
    (hkind : ∀ d ∈ Directive.scan text, d.kind ≠ .html) : (ofText text).Plain where
  lead := by
    refine h.of_subset fun c hc => ?_
    rw [← text_ofText]
    exact List.mem_append_left _ hc
  literal := fun p hp => by
    refine h.of_subset fun c hc => ?_
    rw [← text_ofText]
    exact List.mem_append_right _ (List.mem_flatMap.2 ⟨p, hp, List.mem_append_right _ hc⟩)
  kind := fun p hp => hkind _ (List.mem_map_of_mem hp)

namespace Machine

variable {inclusion : Inclusion} {layer : Nat} {t : Template} {s s' : State} {d : Directive}

/-- What a directive prints when it is carried out in a context. -/
inductive Prints (inclusion : Inclusion) (context : Context) (d : Directive) : String → Prop
  | nothing (hkind : d.kind = .loop ∨ d.kind = .endLoop ∨ d.kind = .condition ∨
      d.kind = .endCondition) : Prints inclusion context d ""
  | component {name text : String} (hname : d.component? = some name)
    (htext : (inclusion name context).result = .ok text) : Prints inclusion context d text
  | raw {name text : String} (hkind : d.kind = .html) (hname : d.argument? 0 = some name)
    (htext : Variable.print context name = .ok text) : Prints inclusion context d text
  | escaped {text : String} (hkind : d.kind = .variable)
    (htext : Variable.print context d.keyword = .ok text) :
    Prints inclusion context d (Text.escapeAngles text)

/-- A text that is printed is put behind the output. -/
theorem output_of_print {text : Except RenderError String} {flow : Flow}
    (h : (Dispatch.print s text).flow = .ok flow) :
    ∃ output, text = .ok output ∧ (Dispatch.print s text).state.output = s.output ++ output := by
  cases text with
  | error e => cases h
  | ok output => exact ⟨output, rfl, rfl⟩

/-- The beginning of a loop prints nothing. -/
theorem openLoop_output (layer : Nat) (directives : List Directive) (s : State)
    (d : Directive) : (openLoop layer directives s d).state.output = s.output := by
  unfold openLoop
  split
  · rfl
  · rfl
  · exact State.bind_output s _ _

/-- Nor does its end. -/
theorem closeLoop_output (layer : Nat) (s : State) (d : Directive) :
    (closeLoop layer s d).state.output = s.output := by
  unfold closeLoop
  split
  · rfl
  · split
    · exact State.bind_output s _ _
    · rfl

/-- **A directive that goes on has printed what it prints.** -/
theorem prints_of_dispatch {directives : List Directive} {flow : Flow}
    (h : (dispatch inclusion layer directives s d).flow = .ok flow) :
    ∃ text, Prints inclusion s.context d text ∧
      (dispatch inclusion layer directives s d).state.output = s.output ++ text := by
  -- a directive that only decides where the cursor goes
  have hnothing : ∀ r : Dispatch, r.state.output = s.output →
      (d.kind = .loop ∨ d.kind = .endLoop ∨ d.kind = .condition ∨ d.kind = .endCondition) →
      ∃ text, Prints inclusion s.context d text ∧ r.state.output = s.output ++ text :=
    fun r hr hkind => ⟨"", .nothing hkind, hr.trans String.append_empty.symm⟩
  unfold dispatch at h ⊢
  cases hkind : d.kind with
  | component =>
    simp only [hkind] at h
    dsimp only [includeComponent] at h ⊢
    cases hname : d.requiredArgument 0 with
    | error e =>
      rw [hname] at h
      cases h
    | ok name =>
      rw [hname] at h
      dsimp only [takeOver] at h ⊢
      cases htext : (inclusion name s.context).result with
      | error e =>
        rw [htext] at h
        cases h
      | ok text =>
        refine ⟨text, .component ?_ htext, rfl⟩
        rw [Directive.component?_of_component hkind]
        exact Directive.requiredArgument_eq_ok.1 hname
  | loop =>
    refine hnothing _ ?_ (.inl hkind)
    dsimp only
    split
    · rfl
    · exact openLoop_output layer directives s d
  | endLoop => exact hnothing _ (closeLoop_output layer s d) (.inr (.inl hkind))
  | condition =>
    refine hnothing _ ?_ (.inr (.inr (.inl hkind)))
    dsimp only
    split <;> rfl
  | endCondition => exact hnothing _ rfl (.inr (.inr (.inr hkind)))
  | html =>
    simp only [hkind] at h
    obtain ⟨output, htext, hout⟩ := output_of_print h
    obtain ⟨name, hname, htext⟩ := bind_eq_ok.1 htext
    exact ⟨output, .raw hkind (Directive.requiredArgument_eq_ok.1 hname) htext, hout⟩
  | «variable» =>
    simp only [hkind] at h
    obtain ⟨output, htext, hout⟩ := output_of_print h
    cases hprint : Variable.print s.context d.keyword with
    | error e =>
      rw [hprint] at htext
      cases htext
    | ok text =>
      rw [hprint] at htext hout
      obtain rfl := Except.ok.inj htext
      exact ⟨_, .escaped hkind hprint, hout⟩

/-- A step prints the literal text of a piece. -/
theorem advance_output (t : Template) (s : State) (index : Nat) :
    (advance t s index).output = s.output ∨
      ∃ q ∈ t.pieces, (advance t s index).output = s.output ++ String.ofList q.literal := by
  unfold advance
  cases hq : t.pieces[index]? with
  | none => exact .inl String.append_empty
  | some q => exact .inr ⟨q, List.mem_of_getElem? hq, rfl⟩

/-- **A turn prints what its directive prints, and the literal text of a piece**
unless it goes back to a loop. -/
theorem prints_of_leads (h : Leads inclusion layer t s s') :
    ∃ p text, t.pieces[s.cursor]? = some p ∧ Prints inclusion s.context p.directive text ∧
      (s'.output = s.output ++ text ∨
        ∃ q ∈ t.pieces, s'.output = s.output ++ text ++ String.ofList q.literal) := by
  obtain ⟨events, hgo⟩ := h
  obtain ⟨p, flow, hp, -, hflow, rfl⟩ := flow_of_go hgo
  obtain ⟨text, hprints, hout⟩ := prints_of_dispatch hflow
  refine ⟨p, text, hp, hprints, ?_⟩
  rw [← hout]
  cases flow with
  | next => exact advance_output t _ _
  | skipTo index => exact advance_output t _ index
  | rewind index => exact .inl rfl

/-- **A render over plain text has printed no angle bracket**, if its components
print none. -/
theorem noAngles_of_reaches {context : Context} (ht : t.Plain)
    (hinclusion : ∀ name context text, (inclusion name context).result = .ok text →
      NoAngles text)
    (h : Reaches inclusion layer t (start t context) s) : NoAngles s.output := by
  induction h with
  | refl => exact ht.lead
  | tail _ hlead ih =>
    obtain ⟨p, text, hp, hprints, hout⟩ := prints_of_leads hlead
    have hprinted : NoAngles text := by
      cases hprints with
      | nothing => exact ⟨List.not_mem_nil, List.not_mem_nil⟩
      | component _ htext => exact hinclusion _ _ text htext
      | raw hkind => exact absurd hkind (ht.kind p (List.mem_of_getElem? hp))
      | escaped => exact Text.noAngles_escapeAngles _
    rcases hout with hout | ⟨q, hq, hout⟩
    · rw [hout]
      exact Text.noAngles_append ih hprinted
    · rw [hout]
      exact Text.noAngles_append (Text.noAngles_append ih hprinted) (ht.literal q hq)

end Machine

namespace Render

variable {settings : Settings} {loader : Loader}

/-- A component that is printed is one that has been loaded and rendered. -/
theorem exists_of_componentAt_ok {layer : Nat} {name text : String} {context : Context}
    (h : (componentAt settings loader layer name context).result = .ok text) :
    layer < maxLayer ∧ ∃ source, loader (settings.componentPath name) = .ok source ∧
      (renderAt settings loader (layer + 1) source context).result = .ok text := by
  unfold componentAt loadThen at h
  split at h
  · rename_i hlayer
    cases hload : loader (settings.componentPath name) with
    | error e =>
      rw [hload] at h
      cases h
    | ok source =>
      rw [hload] at h
      exact ⟨hlayer, source, rfl, h⟩
  · cases h

/-- **A render over plain sources prints no angle bracket**, at any layer. -/
theorem noAngles_of_renderAt
    (hloader : ∀ path source, loader path = .ok source → (Template.ofText source).Plain)
    {layer : Nat} {text output : String} {context : Context} (htext : (Template.ofText text).Plain)
    (h : (renderAt settings loader layer text context).result = .ok output) :
    NoAngles output := by
  induction hleft : maxLayer - layer using Nat.strongRecOn
    generalizing layer text context output with
  | ind left ih =>
    rw [renderAt_eq_run] at h
    obtain ⟨last, hreach, -, -, rfl, -⟩ := Machine.exists_reaches_of_ok (Prod.ext h rfl)
    refine Machine.noAngles_of_reaches htext (fun name context' printed hprinted => ?_) hreach
    obtain ⟨hlayer, source, hload, hrender⟩ := exists_of_componentAt_ok hprinted
    exact ih _ (by omega) (hloader _ source hload) hrender rfl

/-- **Variables cannot bring in markup.**  If neither the text nor a source that
can be loaded has an angle bracket or an html directive, then a render that
succeeds prints no angle bracket, in whatever context. -/
theorem not_mem_output_of_renderAt_ok (settings : Settings) (loader : Loader) (layer : Nat)
    {text output : String} {context : Context}
    (hplain : ∀ source, source = text ∨ (∃ path, loader path = .ok source) →
      '<' ∉ source.toList ∧ '>' ∉ source.toList ∧
        ∀ d ∈ Directive.scan source, d.kind ≠ .html)
    (h : (renderAt settings loader layer text context).result = .ok output) :
    '<' ∉ output.toList ∧ '>' ∉ output.toList := by
  have hsource : ∀ source, source = text ∨ (∃ path, loader path = .ok source) →
      (Template.ofText source).Plain := fun source hs =>
    Template.plain_ofText ⟨(hplain source hs).1, (hplain source hs).2.1⟩ (hplain source hs).2.2
  exact noAngles_of_renderAt (fun path source hload => hsource source (.inr ⟨path, hload⟩))
    (hsource text (.inl rfl)) h

/-- Markup in the items of a loop, printed by a component with text of its own. -/
theorem not_mem_output_of_renderAt_ok_loop :
    (∀ source, source = "[[ for:xs:x ]][[ component:c ]][[ endfor ]]" ∨
        (∃ path, Loader.ofSources [("components/c.html", "[[ x ]] & [[ xs ]];")] path =
          .ok source) →
      '<' ∉ source.toList ∧ '>' ∉ source.toList ∧
        ∀ d ∈ Directive.scan source, d.kind ≠ .html) ∧
    (renderAt {} (.ofSources [("components/c.html", "[[ x ]] & [[ xs ]];")]) 0
        "[[ for:xs:x ]][[ component:c ]][[ endfor ]]"
        ⟨[("xs", .sequence [.string "<b>", .string "&lt;"])]⟩).result =
      .ok "&lt;b&gt; & &lt;b&gt;,&lt;;&lt; & &lt;b&gt;,&lt;;" ∧
    ('<' ∉ "&lt;b&gt; & &lt;b&gt;,&lt;;&lt; & &lt;b&gt;,&lt;;".toList ∧
      '>' ∉ "&lt;b&gt; & &lt;b&gt;,&lt;;&lt; & &lt;b&gt;,&lt;;".toList) := by
  have hplain : ∀ source, source = "[[ for:xs:x ]][[ component:c ]][[ endfor ]]" ∨
      (∃ path, Loader.ofSources [("components/c.html", "[[ x ]] & [[ xs ]];")] path =
        .ok source) →
      '<' ∉ source.toList ∧ '>' ∉ source.toList ∧
        ∀ d ∈ Directive.scan source, d.kind ≠ .html := by
    rintro source (rfl | ⟨path, h⟩)
    · decide +kernel
    · unfold Loader.ofSources Entries.find? at h
      split_ifs at h
      · obtain rfl := Except.ok.inj h
        decide +kernel
      · cases h
  have hrun : (renderAt {} (.ofSources [("components/c.html", "[[ x ]] & [[ xs ]];")]) 0
      "[[ for:xs:x ]][[ component:c ]][[ endfor ]]"
      ⟨[("xs", .sequence [.string "<b>", .string "&lt;"])]⟩).result =
        .ok "&lt;b&gt; & &lt;b&gt;,&lt;;&lt; & &lt;b&gt;,&lt;;" := by cbv
  exact ⟨hplain, hrun, not_mem_output_of_renderAt_ok {} _ 0 hplain hrun⟩

end Render

end BracketTemplate
