/-
# Layers

A render at a layer goes through its template with components rendered one layer
deeper (`renderAt_eq_run`).  The layer is looked at in one place only, where a
component would be too deep.  So a render that is not refused a component is the
same at every smaller layer (`outcome_renderAt_of_le`).
-/

import BracketTemplate.Proofs.Replay

namespace BracketTemplate

namespace Render

open Machine (Replay)

/-- How a text at a layer renders a component. -/
def componentAt (settings : Settings) (loader : Loader) (layer : Nat) : Inclusion :=
  fun name context =>
    if layer < maxLayer then
      (loadThen loader layer (settings.componentPath name) context fun source =>
        renderAt settings loader (layer + 1) source context).after
          [⟨layer, .included name (settings.componentPath name)⟩]
    else refuseComponent layer name context

variable (settings : Settings) (loader : Loader)

/-- A text at a layer is gone through with components one layer deeper. -/
theorem renderAt_eq_run (layer : Nat) (text : String) (context : Context) :
    renderAt settings loader layer text context =
      Machine.run (componentAt settings loader layer) layer (.ofText text) context := by
  unfold renderAt
  by_cases hlayer : layer < maxLayer
  · have hdepth : maxLayer - layer = (maxLayer - (layer + 1)) + 1 := by omega
    have hinclusion : componentAt settings loader layer = fun name context =>
        (loadThen loader layer (settings.componentPath name) context fun source =>
          renderToDepth settings loader (maxLayer - (layer + 1)) (layer + 1) source context).after
            [⟨layer, .included name (settings.componentPath name)⟩] := by
      funext name context
      exact if_pos hlayer
    rw [hdepth, hinclusion]
    rfl
  · have hdepth : maxLayer - layer = 0 := by omega
    have hinclusion : componentAt settings loader layer = refuseComponent layer := by
      funext name context
      exact if_neg hlayer
    rw [hdepth, hinclusion]
    rfl

/-- A component is its source, rendered one layer deeper. -/
theorem outcome_componentAt {layer : Nat} (hlayer : layer < maxLayer) {name source : String}
    (hload : loader (settings.componentPath name) = .ok source) (context : Context) :
    (componentAt settings loader layer name context).outcome =
      (renderAt settings loader (layer + 1) source context).outcome := by
  unfold componentAt loadThen
  rw [if_pos hlayer, hload]
  rfl

/-- Too deep a component is refused. -/
theorem outcome_componentAt_of_le {layer : Nat} (hlayer : maxLayer ≤ layer) (name : String)
    (context : Context) :
    (componentAt settings loader layer name context).outcome =
      (.error (.excessiveRecursion name (layer + 1) maxLayer), context) := by
  unfold componentAt
  rw [if_neg (by omega)]
  rfl

/-- A template is found again in itself. -/
def sameReplay {inclusion inclusion' : Inclusion} (t : Template) (excused : RenderError → Prop)
    (h : ∀ name context, (∀ e, (inclusion name context).result = .error e → ¬ excused e) →
      (inclusion' name context).outcome = (inclusion name context).outcome) :
    Replay inclusion inclusion' t t where
  place := id
  live := fun _ => True
  extra := fun _ => []
  held := []
  before := ""
  view := id
  excused := excused
  piece := fun {_ p} hp _ => ⟨p, hp, ⟨rfl, rfl, .inl rfl⟩, (List.append_nil _).symm⟩
  place_succ := fun _ _ => rfl
  extra_eq := fun _ _ => rfl
  live_of_kind := fun _ _ => trivial
  place_inj := fun _ _ h => h
  held_ne := fun _ hf => absurd hf List.not_mem_nil
  held_eq := .inl rfl
  close := fun _ hk => hk
  close_none := fun _ hk => .inr hk
  included := h

/-- Templates begin alike in both renders. -/
theorem sameReplay_start {inclusion inclusion' : Inclusion} (t : Template)
    (excused : RenderError → Prop)
    (h : ∀ name context, (∀ e, (inclusion name context).result = .error e → ¬ excused e) →
      (inclusion' name context).outcome = (inclusion name context).outcome) (context : Context) :
    (sameReplay t excused h).Mirrors (Machine.start t context) (Machine.start t context) where
  cursor := rfl
  loops := ⟨[], rfl, .nil⟩
  output := by simp [sameReplay]
  context := rfl

/-- **A render depends on the outcomes of its components only**, and of those on
none that fails with an error with which the render does not fail. -/
theorem outcome_run_congr {inclusion inclusion' : Inclusion} {excused : RenderError → Prop}
    (h : ∀ name context, (∀ e, (inclusion name context).result = .error e → ¬ excused e) →
      (inclusion' name context).outcome = (inclusion name context).outcome)
    (layer layer' : Nat) (t : Template) (context : Context)
    (hresult : ∀ e, (Machine.run inclusion layer t context).result = .error e → ¬ excused e) :
    (Machine.run inclusion' layer' t context).outcome =
      (Machine.run inclusion layer t context).outcome := by
  refine Machine.run_outcome_of_ends ?_
  have hend : Machine.Ends inclusion layer t (Machine.start t context)
      (Machine.run inclusion layer t context).outcome := Machine.ends_run t context
  have hcomes : (sameReplay t excused h).Comes layer' 0 (Machine.start t context)
      (Machine.run inclusion layer t context).outcome :=
    (sameReplay t excused h).comes (fun _ => trivial) (sameReplay_start t excused h context)
      (Machine.sound_start t context) rfl hend
  generalize ho : (Machine.run inclusion layer t context).outcome = o at hcomes ⊢
  cases hcomes with
  | limit hk => omega
  | fail hview hend =>
    obtain rfl := hview
    exact hend
  | @exempt e context' he => exact absurd he (hresult e (congrArg Prod.fst ho))
  | @finish last last' hsound hcursor hreach hlast hsteps =>
    have hfinish : (Machine.finish last').outcome = (Machine.finish last).outcome := by
      obtain ⟨hagree, hcontext⟩ := hlast.finish rfl rfl
      refine Prod.ext ?_ hcontext
      change (Machine.finish last').result = (Machine.finish last).result
      generalize (Machine.finish last).result = x at hagree ⊢
      generalize (Machine.finish last').result = x' at hagree ⊢
      cases hagree with
      | ok htext => exact congrArg Except.ok (htext.trans String.empty_append)
      | error he => exact congrArg Except.error he
      | exempt he => exact he.elim
    rw [← hfinish]
    exact hreach.ends (Machine.ends_finish (by rw [hlast.cursor]; exact Nat.le_of_eq hcursor.symm))

/-- Whether an error says that components go too deep. -/
def TooDeep : RenderError → Prop
  | .excessiveRecursion .. => True
  | _ => False

/-- **A render that is refused no component is the same at every smaller layer.** -/
theorem outcome_renderAt_of_le {layer layer' : Nat} (h : layer ≤ layer') (text : String)
    (context : Context)
    (hresult : ∀ e, (renderAt settings loader layer' text context).result = .error e →
      ¬ TooDeep e) :
    (renderAt settings loader layer text context).outcome =
      (renderAt settings loader layer' text context).outcome := by
  induction hleft : maxLayer - layer' using Nat.strongRecOn
    generalizing layer layer' text context with
  | ind left ih =>
    rw [renderAt_eq_run] at hresult
    rw [renderAt_eq_run, renderAt_eq_run]
    refine outcome_run_congr (fun name context hcomponent => ?_) layer' layer _ context hresult
    by_cases hlayer : layer' < maxLayer
    · unfold componentAt loadThen at hcomponent ⊢
      rw [if_pos hlayer] at hcomponent
      rw [if_pos hlayer, if_pos (Nat.lt_of_le_of_lt h hlayer)]
      cases hload : loader (settings.componentPath name) with
      | error e => rfl
      | ok source =>
        rw [hload] at hcomponent
        exact ih _ (by omega) (Nat.succ_le_succ h) source context hcomponent rfl
    · have hrefused := outcome_componentAt_of_le settings loader (Nat.le_of_not_lt hlayer) name
        context
      exact absurd trivial (hcomponent _ (congrArg Prod.fst hrefused))

/-- **The layer can only turn a result into a refusal.**  Unless a component is
refused at the larger layer, the text comes to the same result at the smaller one
and leaves the same context. -/
theorem outcome_renderAt_eq_of_layer_le {layer layer' : Nat} (h : layer ≤ layer') (text : String)
    (context : Context)
    (hresult : ∀ component deep max, (renderAt settings loader layer' text context).result ≠
      .error (.excessiveRecursion component deep max)) :
    (renderAt settings loader layer text context).outcome =
      (renderAt settings loader layer' text context).outcome := by
  refine outcome_renderAt_of_le settings loader h text context fun e he hdeep => ?_
  cases e with
  | excessiveRecursion component deep max => exact hresult component deep max he
  | _ => exact hdeep

/-- A component in a loop, which includes another, at the deepest layer that has
room for both. -/
theorem outcome_renderAt_eq_of_layer_le_loop :
    0 ≤ 3 ∧
    (∀ component deep max,
      (renderAt {} (.ofSources [("components/c.html", "[[ component:d ]]"),
          ("components/d.html", "[[ x ]];")]) 3
        "[[ for:xs:x ]][[ component:c ]][[ endfor ]][[ y ]]"
        ⟨[("xs", .sequence [.integer 1, .integer 2])]⟩).result ≠
          .error (.excessiveRecursion component deep max)) ∧
    (renderAt {} (.ofSources [("components/c.html", "[[ component:d ]]"),
          ("components/d.html", "[[ x ]];")]) 0
        "[[ for:xs:x ]][[ component:c ]][[ endfor ]][[ y ]]"
        ⟨[("xs", .sequence [.integer 1, .integer 2])]⟩).outcome =
      (renderAt {} (.ofSources [("components/c.html", "[[ component:d ]]"),
          ("components/d.html", "[[ x ]];")]) 3
        "[[ for:xs:x ]][[ component:c ]][[ endfor ]][[ y ]]"
        ⟨[("xs", .sequence [.integer 1, .integer 2])]⟩).outcome := by
  have hrun : (renderAt {} (.ofSources [("components/c.html", "[[ component:d ]]"),
      ("components/d.html", "[[ x ]];")]) 3
      "[[ for:xs:x ]][[ component:c ]][[ endfor ]][[ y ]]"
      ⟨[("xs", .sequence [.integer 1, .integer 2])]⟩).result =
        .error (.undefinedVariable "y") := by cbv
  have hresult : ∀ component deep max,
      (renderAt {} (.ofSources [("components/c.html", "[[ component:d ]]"),
          ("components/d.html", "[[ x ]];")]) 3
        "[[ for:xs:x ]][[ component:c ]][[ endfor ]][[ y ]]"
        ⟨[("xs", .sequence [.integer 1, .integer 2])]⟩).result ≠
          .error (.excessiveRecursion component deep max) := by
    intro component deep max h
    rw [hrun] at h
    cases h
  exact ⟨by decide, hresult, outcome_renderAt_eq_of_layer_le {} _ (by decide) _ _ hresult⟩

end Render

end BracketTemplate
