/-
# Texts one after the other

Of two texts that meet without a seam the first is carried out in front of the
second as by itself: it ends with no loop open (`front_of_ok`), or it fails
(`front_of_error`) with an error that what follows cannot mend, and only the end
of an open block may follow.  The second is carried out behind the first as by
itself from the context that the first leaves, only that errors name other lines
and that the steps of the first count (`back_of_outcome`).

So a render of both is a render of the one and then of the other, for all texts,
whether or not the blocks in them are nested (`outcome_renderAt_append`).
-/

import BracketTemplate.Proofs.Parts

namespace BracketTemplate

namespace Machine

variable {inclusion : Inclusion} {layer : Nat}

/-- A template in front of another one. -/
def frontReplay (inclusion : Inclusion) (t u : Template) :
    Replay inclusion inclusion t (t.append u) :=
  partReplay (Template.Like.refl id t) ⟨[], []⟩ u [] ""
    (fun e => ∃ keyword line, e = .unterminatedBlock keyword line)
    (fun _ hf => absurd hf List.not_mem_nil) (.inl rfl)
    (.inr fun keyword line => ⟨keyword, line, rfl⟩) fun _ _ _ => rfl

/-- Both templates begin alike. -/
theorem frontReplay_start (t u : Template) (context : Context) :
    (frontReplay inclusion t u).Mirrors (start t context) (start (t.append u) context) := by
  refine partReplay_start rfl rfl ?_ rfl
  change String.ofList (t.append u).lead = "" ++ String.ofList (t.lead ++ t.seam u 0)
  rw [Template.lead_append, String.empty_append]

/-- **A template that succeeds leaves no loop open for what follows.** -/
theorem front_of_ok {t : Template} {context context' : Context} {text : String}
    (h : (run inclusion layer t context).outcome = (.ok text, context')) (u : Template) :
    ∃ s, Reaches inclusion layer (t.append u) (start (t.append u) context) s ∧
      s.cursor = t.pieces.length ∧ s.loops = [] ∧ s.output = text ++ String.ofList u.lead ∧
      s.context = context' := by
  rcases (frontReplay inclusion t u).reaches_of_ok (k := 0) (fun _ => trivial)
    (frontReplay_start t u context) (sound_start t context) rfl (h ▸ ends_run t context) with
    ⟨hk, -⟩ | ⟨s, hreach, hcursor, hloops, houtput, hcontext⟩
  · exact absurd hk (Nat.lt_irrefl 0)
  · refine ⟨s, hreach, hcursor.trans (Nat.zero_add _), hloops, ?_, hcontext⟩
    rw [houtput]
    change "" ++ (text ++ String.ofList (t.seam u t.pieces.length)) = _
    rw [Template.seam_length, String.empty_append]

/-- **A template that fails does so whatever follows**, if it is not for want of
the end of a block. -/
theorem front_of_error {t : Template} {context context' : Context} {e : RenderError}
    (h : (run inclusion layer t context).outcome = (.error e, context'))
    (he : ∀ keyword line, e ≠ .unterminatedBlock keyword line) (u : Template) :
    (run inclusion layer (t.append u) context).outcome = (.error e, context') := by
  have hcomes : (frontReplay inclusion t u).Comes layer 0 (start (t.append u) context) _ :=
    (frontReplay inclusion t u).comes (fun _ => trivial) (frontReplay_start t u context)
      (sound_start t context) rfl (h ▸ ends_run t context)
  generalize ho : ((.error e, context') : Outcome) = o at hcomes
  cases hcomes with
  | limit hk => omega
  | fail hview hend =>
    cases ho
    obtain rfl := hview
    exact run_outcome_of_ends hend
  | exempt hexcused =>
    cases ho
    obtain ⟨keyword, line, rfl⟩ := hexcused
    exact absurd rfl (he keyword line)
  | finish =>
    obtain ⟨keyword, line, rfl⟩ := finish_eq_error ho.symm
    exact absurd rfl (he keyword line)

/-- A template behind another one, of which `before` was printed. -/
def backReplay (inclusion : Inclusion) {m u : Template}
    (hlike : Template.Like RenderError.unplaced m u) (t : Template) (before : String) :
    Replay inclusion inclusion m ((t.append u).append ⟨[], []⟩) :=
  partReplay hlike t ⟨[], []⟩ [] before (fun _ => False)
    (fun _ hf => absurd hf List.not_mem_nil) (.inl rfl) (.inl rfl) fun _ _ _ => rfl

/-- **A template behind another one comes to what it comes to by itself**, but
for the lines in errors, unless the steps run out. -/
theorem back_of_outcome {m t u : Template} (hlike : Template.Like RenderError.unplaced m u)
    {context : Context} {s : State} {text : String}
    (hreach : Reaches inclusion layer (t.append u) (start (t.append u) context) s)
    (hcursor : s.cursor = t.pieces.length) (hloops : s.loops = [])
    (houtput : s.output = text ++ String.ofList u.lead) {o : Outcome}
    (h : (run inclusion layer m s.context).outcome = o) :
    (∃ c, (run inclusion layer (t.append u) context).outcome =
        (.error (.stepLimitExceeded maxSteps), c)) ∨
      (∃ text', o.1 = .ok text' ∧
        (run inclusion layer (t.append u) context).outcome = (.ok (text ++ text'), o.2)) ∨
      ∃ e e', o.1 = .error e ∧ e'.unplaced = e.unplaced ∧
        (run inclusion layer (t.append u) context).outcome = (.error e', o.2) := by
  have hnil : (t.append u).append ⟨[], []⟩ = t.append u := Template.append_nil _
  have hstart : (backReplay inclusion hlike t text).Mirrors (start m s.context) s := by
    refine partReplay_start hcursor hloops ?_ rfl
    rw [houtput, hlike.lead]
    congr 2
    unfold Template.seam
    split <;> exact (List.append_nil _).symm
  have hcomes : (backReplay inclusion hlike t text).Comes layer s.steps s o :=
    (backReplay inclusion hlike t text).comes (fun _ => trivial) hstart
      (sound_start m s.context) (Nat.zero_add _).symm (h ▸ ends_run m s.context)
  cases hcomes with
  | limit _ hend =>
    rw [hnil] at hend
    exact .inl ⟨_, run_outcome_of_ends (hreach.ends hend)⟩
  | fail hview hend =>
    rw [hnil] at hend
    exact .inr (.inr ⟨_, _, rfl, hview, run_outcome_of_ends (hreach.ends hend)⟩)
  | exempt hexcused => exact hexcused.elim
  | @finish last last' hsound hlast hreach' hmirrors _ =>
    rw [hnil] at hreach'
    have hend : Ends inclusion layer (t.append u) last' (finish last').outcome := by
      refine ends_finish ?_
      rw [hmirrors.cursor, hlast, Template.length_append, hlike.length_eq]
      exact Nat.le_refl _
    have hrun := run_outcome_of_ends (hreach.ends (hreach'.ends hend))
    have hextra : (backReplay inclusion hlike t text).extra last.cursor = [] := by
      change m.seam ⟨[], []⟩ last.cursor = []
      unfold Template.seam
      split <;> rfl
    obtain ⟨hagree, hcontext⟩ := hmirrors.finish rfl hextra
    rw [hrun]
    generalize hresult : (finish last).result = x at hagree
    generalize hresult' : (finish last').result = x' at hagree
    cases hagree with
    | ok htext =>
      exact .inr (.inl ⟨_, hresult, Prod.ext (hresult'.trans (congrArg _ htext)) hcontext⟩)
    | error he => exact .inr (.inr ⟨_, _, hresult, he, Prod.ext hresult' hcontext⟩)
    | exempt he => exact he.elim

end Machine

namespace Render

open Machine (maxSteps)

/-- **Two texts that meet without a seam are rendered one after the other.**  If
the first succeeds, the second is rendered from the context that the first leaves:
both outputs are put together, or the render fails as the second does, but for
the line in the error, unless the two take too many steps for one text.  If the
first fails other than for want of the end of a block, nothing changes. -/
theorem outcome_renderAt_append (settings : Settings) (loader : Loader) (layer : Nat)
    {a b : String} (hseam : Directive.Seamless a b) (c : Context) :
    (∀ oa c₁, (renderAt settings loader layer a c).outcome = (.ok oa, c₁) →
      (∀ ob c₂, (renderAt settings loader layer b c₁).outcome = (.ok ob, c₂) →
        (renderAt settings loader layer (a ++ b) c).outcome = (.ok (oa ++ ob), c₂) ∨
        ∃ c₃, (renderAt settings loader layer (a ++ b) c).outcome =
          (.error (.stepLimitExceeded maxSteps), c₃)) ∧
      (∀ e c₂, (renderAt settings loader layer b c₁).outcome = (.error e, c₂) →
        (∃ e', e'.unplaced = e.unplaced ∧
          (renderAt settings loader layer (a ++ b) c).outcome = (.error e', c₂)) ∨
        ∃ c₃, (renderAt settings loader layer (a ++ b) c).outcome =
          (.error (.stepLimitExceeded maxSteps), c₃))) ∧
    (∀ e c₁, (∀ keyword line, e ≠ .unterminatedBlock keyword line) →
      (renderAt settings loader layer a c).outcome = (.error e, c₁) →
      (renderAt settings loader layer (a ++ b) c).outcome = (.error e, c₁)) := by
  simp only [renderAt_eq_run, Template.ofText_append hseam]
  refine ⟨fun oa c₁ ha => ?_, fun e c₁ he ha => Machine.front_of_error ha he _⟩
  obtain ⟨s, hreach, hcursor, hloops, houtput, rfl⟩ := Machine.front_of_ok ha (.below a b)
  have hback {o : Outcome} := Machine.back_of_outcome (o := o) (Template.like_below a b) hreach
    hcursor hloops houtput
  refine ⟨fun ob c₂ hb => ?_, fun e c₂ hb => ?_⟩
  · rcases hback hb with hlimit | ⟨text, htext, hrun⟩ | ⟨e, e', he, -⟩
    · exact .inr hlimit
    · obtain rfl := Except.ok.inj htext
      exact .inl hrun
    · cases he
  · rcases hback hb with hlimit | ⟨text, htext, -⟩ | ⟨e₁, e', he, hview, hrun⟩
    · exact .inr hlimit
    · cases htext
    · obtain rfl := Except.error.inj he
      exact .inl ⟨e', hview, hrun⟩

/-- A loop and a condition that cross, and behind them what the loop has left. -/
theorem outcome_renderAt_append_crossing :
    let a := "[[ for:xs:x ]][[ if:x ]]<[[ endfor ]][[ endif ]]"
    let xs := Value.sequence [.string "p", .string "q"]
    let c₁ : Context := ⟨[("x", .string "q"), ("xs", xs)]⟩
    Directive.Seamless a "[[ x ]]" ∧
      (renderAt {} (.ofSources []) 0 a ⟨[("xs", xs)]⟩).outcome = (.ok "<<", c₁) ∧
      (renderAt {} (.ofSources []) 0 "[[ x ]]" c₁).outcome = (.ok "q", c₁) ∧
      ((renderAt {} (.ofSources []) 0 (a ++ "[[ x ]]") ⟨[("xs", xs)]⟩).outcome =
          (.ok ("<<" ++ "q"), c₁) ∨
        ∃ c₃, (renderAt {} (.ofSources []) 0 (a ++ "[[ x ]]") ⟨[("xs", xs)]⟩).outcome =
          (.error (.stepLimitExceeded maxSteps), c₃)) := by
  intro a xs c₁
  have hseam : Directive.Seamless a "[[ x ]]" := by
    unfold Directive.Seamless
    decide +kernel
  have ha : (renderAt {} (.ofSources []) 0 a ⟨[("xs", xs)]⟩).outcome = (.ok "<<", c₁) := by cbv
  have hb : (renderAt {} (.ofSources []) 0 "[[ x ]]" c₁).outcome = (.ok "q", c₁) := by cbv
  exact ⟨hseam, ha, hb,
    ((outcome_renderAt_append {} (.ofSources []) 0 hseam _).1 _ _ ha).1 _ _ hb⟩

end Render

end BracketTemplate
