/-
# The record of a render

Every entry of a record comes from one of two places:

| entry | where it comes from |
| --- | --- |
| a component is included, a path is loaded | a directive of the text that includes a component |
| anything else | the text itself, or the record of such a component |

So a path that a render loads is that of a component to which a source of the text
refers (`exists_references_of_loads`).

Nothing that a loader is asked is left out of the record.  A loader that gives the
same at the paths that are recorded cannot be told from the first one, whatever it
gives elsewhere: each turn is the same with both, as the record of the turn has
what its component asks (`turn_congr_of_events`), so the whole render is
(`renderAt_congr_of_loads`).  And a render depends on its loader at the components
only that it can reach (`renderAt_eq_of_reachable`).
-/

import BracketTemplate.Proofs.Layers
import BracketTemplate.Proofs.Mentions

namespace BracketTemplate

/-- Whether an action asks for something: a component, or the text at a path. -/
def Action.isRequest : Action → Bool
  | .included .. | .loaded _ => true
  | _ => false

/-- Whether two loaders give the same for the path that an event says is loaded. -/
def Loader.SameFor (loader other : Loader) (e : Event) : Prop :=
  ∀ path, e.action = .loaded path → other path = loader path

/-- Whether a run asks its loader for a path. -/
def Run.Loads (r : Run) (path : String) : Prop := ∃ e ∈ r.events, e.action = .loaded path

namespace Machine

/-- What is recorded in a turn. -/
def Turn.events : Turn → List Event
  | .go _ events => events
  | .halt r => r.events

variable {inclusion inclusion' : Inclusion} {layer : Nat} {t : Template} {s : State}
  {d : Directive} {e : Event}

/-- A component that is taken over is recorded. -/
theorem events_takeOver (s : State) (r : Run) : (takeOver s r).events = r.events := by
  unfold takeOver
  split <;> rfl

/-- What a directive does is done in the layer of its text, or by its component. -/
theorem mem_events_dispatch {directives : List Directive}
    (h : e ∈ (dispatch inclusion layer directives s d).events) :
    (e.layer = layer ∧ e.action.isRequest = false) ∨
      ∃ name, d.component? = some name ∧ e ∈ (inclusion name s.context).events := by
  have hbound : ∀ {origin : Nat} {value : Value} {binding? : Option String},
      e ∈ boundEvents layer origin value binding? →
        e.layer = layer ∧ e.action.isRequest = false := by
    intro origin value binding? he
    cases binding? with
    | none => exact absurd he List.not_mem_nil
    | some name =>
      rw [List.mem_singleton.1 he]
      exact ⟨rfl, rfl⟩
  have hprint : ∀ x, e ∉ (Dispatch.print s x).events := by
    intro x
    cases x <;> exact List.not_mem_nil
  unfold dispatch at h
  cases hkind : d.kind with
  | component =>
    simp only [hkind] at h
    unfold includeComponent at h
    split at h
    · rename_i name hname
      refine .inr ⟨name, ?_, ?_⟩
      · rw [Directive.component?_of_component hkind]
        exact Directive.requiredArgument_eq_ok.1 hname
      · rwa [events_takeOver] at h
    · exact absurd h List.not_mem_nil
  | loop =>
    simp only [hkind] at h
    split at h
    · exact absurd h List.not_mem_nil
    · unfold openLoop at h
      split at h
      · exact absurd h List.not_mem_nil
      · exact absurd h List.not_mem_nil
      · rcases List.mem_append.1 h with h | h
        · exact .inl (hbound h)
        · rw [List.mem_singleton.1 h]
          exact .inl ⟨rfl, rfl⟩
  | endLoop =>
    simp only [hkind] at h
    unfold closeLoop at h
    split at h
    · exact absurd h List.not_mem_nil
    · split at h
      · rcases List.mem_append.1 h with h | h
        · exact .inl (hbound h)
        · rw [List.mem_singleton.1 h]
          exact .inl ⟨rfl, rfl⟩
      · rw [List.mem_singleton.1 h]
        exact .inl ⟨rfl, rfl⟩
  | condition =>
    simp only [hkind] at h
    split at h <;> exact absurd h List.not_mem_nil
  | endCondition =>
    simp only [hkind] at h
    exact absurd h List.not_mem_nil
  | html =>
    simp only [hkind] at h
    exact absurd h (hprint _)
  | «variable» =>
    simp only [hkind] at h
    exact absurd h (hprint _)

/-- A turn that carries out a directive records that it does, and what the directive
does. -/
theorem events_turn {p : Piece} (hp : t.pieces[s.cursor]? = some p)
    (hsteps : s.steps ≤ maxSteps) :
    (turn inclusion layer t s).events =
      ⟨layer, .reached s.cursor p.directive.kind p.directive.line⟩ ::
        (dispatch inclusion layer t.directives s p.directive).events := by
  unfold turn
  rw [hp]
  dsimp only
  rw [if_neg (Nat.not_lt.2 hsteps)]
  split <;> rfl

/-- Any other turn ends the render, includes nothing and records nothing. -/
theorem exists_halt_of_idle (layer : Nat)
    (h : t.pieces[s.cursor]? = none ∨ maxSteps < s.steps) :
    ∃ r, r.events = [] ∧ ∀ inclusion, turn inclusion layer t s = .halt r := by
  unfold turn
  cases hp : t.pieces[s.cursor]? with
  | none =>
    refine ⟨finish s, ?_, fun _ => rfl⟩
    unfold finish
    split <;> rfl
  | some p =>
    have hsteps : maxSteps < s.steps := h.resolve_left (by rw [hp]; exact Option.some_ne_none p)
    exact ⟨_, rfl, fun _ => if_pos hsteps⟩

/-- A turn carries out a directive or is idle. -/
theorem exists_piece_or_idle (t : Template) (s : State) :
    (∃ p, t.pieces[s.cursor]? = some p ∧ s.steps ≤ maxSteps) ∨
      (t.pieces[s.cursor]? = none ∨ maxSteps < s.steps) := by
  rcases Nat.lt_or_ge maxSteps s.steps with hlt | hle
  · exact .inr (.inr hlt)
  · cases hp : t.pieces[s.cursor]? with
    | none => exact .inr (.inl rfl)
    | some p => exact .inl ⟨p, rfl, hle⟩

/-- What is done in a turn is done in the layer of the text, or by a component. -/
theorem mem_events_turn (h : e ∈ (turn inclusion layer t s).events) :
    (e.layer = layer ∧ e.action.isRequest = false) ∨
      ∃ d ∈ t.directives, ∃ name context,
        d.component? = some name ∧ e ∈ (inclusion name context).events := by
  rcases exists_piece_or_idle t s with ⟨p, hp, hsteps⟩ | hidle
  · rw [events_turn hp hsteps] at h
    rcases List.mem_cons.1 h with rfl | h
    · exact .inl ⟨rfl, rfl⟩
    · rcases mem_events_dispatch h with hown | ⟨name, hname, h⟩
      · exact .inl hown
      · exact .inr ⟨p.directive, List.mem_map_of_mem (List.mem_of_getElem? hp), name, _, hname, h⟩
  · obtain ⟨r, hevents, hhalt⟩ := exists_halt_of_idle layer hidle
    rw [hhalt, Turn.events, hevents] at h
    exact absurd h List.not_mem_nil

/-- **So is what is done in a run.** -/
theorem mem_events_run {context : Context} (h : e ∈ (run inclusion layer t context).events) :
    (e.layer = layer ∧ e.action.isRequest = false) ∨
      ∃ d ∈ t.directives, ∃ name context,
        d.component? = some name ∧ e ∈ (inclusion name context).events := by
  have hfor : ∀ turns s, e ∈ (runFor inclusion layer t turns s).events →
      (e.layer = layer ∧ e.action.isRequest = false) ∨
        ∃ d ∈ t.directives, ∃ name context,
          d.component? = some name ∧ e ∈ (inclusion name context).events := by
    intro turns
    induction turns with
    | zero => exact fun s he => absurd he List.not_mem_nil
    | succ turns ih =>
      intro s he
      unfold runFor at he
      split at he
      · rename_i r hhalt
        exact mem_events_turn (by rwa [hhalt])
      · rename_i s' events hgo
        rcases List.mem_append.1 he with he | he
        · exact mem_events_turn (by rwa [hgo])
        · exact ih s' he
  unfold run at h
  split at h
  · exact absurd h List.not_mem_nil
  · rcases List.mem_append.1 h with h | h
    · rw [List.mem_singleton.1 h]
      exact .inl ⟨rfl, rfl⟩
    · exact hfor _ _ h

variable (known : Event → Prop)

/-- A directive does the same with components that are the same wherever they
record nothing but what is known, if it records nothing else. -/
theorem dispatch_congr_of_events {directives : List Directive}
    (h : ∀ name context, (∀ e ∈ (inclusion name context).events, known e) →
      inclusion' name context = inclusion name context)
    (hevents : ∀ e ∈ (dispatch inclusion layer directives s d).events, known e) :
    dispatch inclusion' layer directives s d = dispatch inclusion layer directives s d := by
  unfold dispatch at hevents ⊢
  cases hkind : d.kind with
  | component =>
    simp only [hkind] at hevents
    dsimp only [includeComponent] at hevents ⊢
    cases hname : d.requiredArgument 0 with
    | error e => rfl
    | ok name =>
      rw [hname] at hevents
      dsimp only at hevents ⊢
      rw [events_takeOver] at hevents
      rw [h name s.context hevents]
  | _ => rfl

/-- So does a turn. -/
theorem turn_congr_of_events
    (h : ∀ name context, (∀ e ∈ (inclusion name context).events, known e) →
      inclusion' name context = inclusion name context)
    (hevents : ∀ e ∈ (turn inclusion layer t s).events, known e) :
    turn inclusion' layer t s = turn inclusion layer t s := by
  rcases exists_piece_or_idle t s with ⟨p, hp, hsteps⟩ | hidle
  · rw [events_turn hp hsteps] at hevents
    have hdispatch : dispatch inclusion' layer t.directives s p.directive =
        dispatch inclusion layer t.directives s p.directive :=
      dispatch_congr_of_events known h fun e he => hevents e (List.mem_cons_of_mem _ he)
    unfold turn
    rw [hp]
    dsimp only
    rw [hdispatch]
  · obtain ⟨r, -, hhalt⟩ := exists_halt_of_idle layer hidle
    rw [hhalt, hhalt]

/-- **So does a run.** -/
theorem run_congr_of_events {context : Context}
    (h : ∀ name context, (∀ e ∈ (inclusion name context).events, known e) →
      inclusion' name context = inclusion name context)
    (hevents : ∀ e ∈ (run inclusion layer t context).events, known e) :
    run inclusion' layer t context = run inclusion layer t context := by
  have hfor : ∀ turns s, (∀ e ∈ (runFor inclusion layer t turns s).events, known e) →
      runFor inclusion' layer t turns s = runFor inclusion layer t turns s := by
    intro turns
    induction turns with
    | zero => exact fun s _ => rfl
    | succ turns ih =>
      intro s hs
      unfold runFor at hs ⊢
      cases hturn : turn inclusion layer t s with
      | halt r =>
        rw [hturn] at hs
        rw [turn_congr_of_events known h (by rwa [hturn]), hturn]
      | go s' events =>
        rw [hturn] at hs
        have hsame : turn inclusion' layer t s = turn inclusion layer t s :=
          turn_congr_of_events known h (by
            rw [hturn]
            exact fun e he => hs e (List.mem_append_left _ he))
        rw [hsame, hturn]
        dsimp only
        rw [ih s' fun e he => hs e (List.mem_append_right _ he)]
  unfold run at hevents ⊢
  split
  · rfl
  · rename_i p rest hpieces
    rw [hpieces] at hevents
    rw [hfor _ _ fun e he => hevents e (List.mem_append_right _ he)]

end Machine

namespace Render

variable {settings : Settings} {loader other : Loader} {layer : Nat} {text : String}
  {context : Context}

/-- A component that is rendered is recorded, with the path of its source and all
that its render does. -/
theorem mem_events_componentAt {name : String} {e : Event}
    (h : e ∈ (componentAt settings loader layer name context).events) :
    layer < maxLayer ∧
      (e = ⟨layer, .included name (settings.componentPath name)⟩ ∨
        e = ⟨layer, .loaded (settings.componentPath name)⟩ ∨
        ∃ source, loader (settings.componentPath name) = .ok source ∧
          e ∈ (renderAt settings loader (layer + 1) source context).events) := by
  unfold componentAt at h
  split at h
  · rename_i hlayer
    refine ⟨hlayer, ?_⟩
    rcases List.mem_cons.1 h with rfl | h
    · exact .inl rfl
    · unfold loadThen at h
      cases hload : loader (settings.componentPath name) with
      | error e' =>
        rw [hload] at h
        exact .inr (.inl (List.mem_singleton.1 h))
      | ok source =>
        rw [hload] at h
        rcases List.mem_cons.1 h with rfl | h
        · exact .inr (.inl rfl)
        · exact .inr (.inr ⟨source, rfl, h⟩)
  · exact absurd h List.not_mem_nil

/-- **A path that is loaded is that of a component to which a source of the text
refers.** -/
theorem exists_references_of_loads {path : String}
    (h : (renderAt settings loader layer text context).Loads path) :
    ∃ source name, Drawn settings loader text source ∧ References source name ∧
      path = settings.componentPath name := by
  induction hleft : maxLayer - layer using Nat.strongRecOn generalizing layer text context with
  | ind left ih =>
    obtain ⟨e, he, hpath⟩ := h
    rw [renderAt_eq_run] at he
    rcases Machine.mem_events_run he with ⟨-, hown⟩ | ⟨d, hd, name, context', hname, he⟩
    · rw [hpath] at hown
      cases hown
    · have hrefers : References text name := ⟨d, hd, hname⟩
      obtain ⟨hlayer, rfl | rfl | ⟨source, hload, he⟩⟩ := mem_events_componentAt he
      · cases hpath
      · exact ⟨text, name, .self, hrefers, (Action.loaded.inj hpath).symm⟩
      · obtain ⟨source', name', hdrawn, hrefers', hpath'⟩ :=
          ih _ (by omega) ⟨e, he, hpath⟩ rfl
        exact ⟨source', name', .of_component hd hname hload hdrawn, hrefers', hpath'⟩

/-- **A render depends on its loader only at the paths that it loads.** -/
theorem renderAt_congr_of_loads
    (h : ∀ path, (renderAt settings loader layer text context).Loads path →
      other path = loader path) :
    renderAt settings other layer text context = renderAt settings loader layer text context := by
  induction hleft : maxLayer - layer using Nat.strongRecOn generalizing layer text context with
  | ind left ih =>
    rw [renderAt_eq_run] at h
    rw [renderAt_eq_run, renderAt_eq_run]
    refine Machine.run_congr_of_events (loader.SameFor other) (fun name context' hknown => ?_)
      fun e he path hpath => h path ⟨e, he, hpath⟩
    unfold componentAt loadThen at hknown ⊢
    split
    · rename_i hlayer
      rw [if_pos hlayer] at hknown
      cases hload : loader (settings.componentPath name) with
      | error e =>
        rw [hload] at hknown
        have hother := hknown _ (List.mem_cons_of_mem _ List.mem_cons_self) _ rfl
        rw [hother, hload]
      | ok source =>
        rw [hload] at hknown
        have hother := hknown _ (List.mem_cons_of_mem _ List.mem_cons_self) _ rfl
        have hsource : renderAt settings other (layer + 1) source context' =
            renderAt settings loader (layer + 1) source context' := by
          refine ih _ (by omega) (fun path hpath => ?_) rfl
          obtain ⟨e, he, hloaded⟩ := hpath
          exact hknown e (List.mem_cons_of_mem _ (List.mem_cons_of_mem _ he)) path hloaded
        rw [hother, hload]
        dsimp only
        rw [hsource]
    · rfl

/-- **A render depends only on the sources that it can reach.**  If two loaders give
the same text, or fail alike, for every component to which the text refers or a
source that it draws on, then the render is the same with both, however they differ
elsewhere: it comes to the same result, leaves the same context and does the same on
the way. -/
theorem renderAt_eq_of_reachable (settings : Settings) {loader other : Loader} {text : String}
    (h : ∀ source name, Drawn settings loader text source → References source name →
      loader (settings.componentPath name) = other (settings.componentPath name))
    (layer : Nat) (context : Context) :
    renderAt settings loader layer text context = renderAt settings other layer text context := by
  refine (renderAt_congr_of_loads fun path hpath => ?_).symm
  obtain ⟨source, name, hdrawn, hrefers, rfl⟩ := exists_references_of_loads hpath
  exact (h source name hdrawn hrefers).symm

/-- A component in a loop that refers to itself, and loaders that differ elsewhere. -/
theorem renderAt_eq_of_reachable_cycle :
    (∀ source name,
      Drawn {} (.ofSources [("components/c.html", "[[ if:x ]][[ component:c ]][[ endif ]]"),
        ("components/d.html", "[[ x")]) "[[ for:xs:x ]][[ component:c ]][[ endfor ]]" source →
      References source name →
      Loader.ofSources [("components/c.html", "[[ if:x ]][[ component:c ]][[ endif ]]"),
          ("components/d.html", "[[ x")] (Settings.componentPath {} name) =
        Loader.ofSources [("components/c.html", "[[ if:x ]][[ component:c ]][[ endif ]]")]
          (Settings.componentPath {} name)) ∧
    Loader.ofSources [("components/c.html", "[[ if:x ]][[ component:c ]][[ endif ]]"),
        ("components/d.html", "[[ x")] "components/d.html" ≠
      Loader.ofSources [("components/c.html", "[[ if:x ]][[ component:c ]][[ endif ]]")]
        "components/d.html" ∧
    renderAt {} (.ofSources [("components/c.html", "[[ if:x ]][[ component:c ]][[ endif ]]"),
          ("components/d.html", "[[ x")]) 0 "[[ for:xs:x ]][[ component:c ]][[ endfor ]]"
        ⟨[("xs", .sequence [.integer 0, .integer 1])]⟩ =
      renderAt {} (.ofSources [("components/c.html", "[[ if:x ]][[ component:c ]][[ endif ]]")]) 0
        "[[ for:xs:x ]][[ component:c ]][[ endfor ]]"
        ⟨[("xs", .sequence [.integer 0, .integer 1])]⟩ := by
  have hnames : ∀ source, source = "[[ for:xs:x ]][[ component:c ]][[ endfor ]]" ∨
      source = "[[ if:x ]][[ component:c ]][[ endif ]]" →
      ∀ d ∈ Directive.scan source, ∀ name ∈ d.component?, name = "c" := by
    rintro source (rfl | rfl) <;> decide +kernel
  have hdrawn : ∀ source,
      Drawn {} (.ofSources [("components/c.html", "[[ if:x ]][[ component:c ]][[ endif ]]"),
        ("components/d.html", "[[ x")]) "[[ for:xs:x ]][[ component:c ]][[ endfor ]]" source →
      source = "[[ for:xs:x ]][[ component:c ]][[ endfor ]]" ∨
        source = "[[ if:x ]][[ component:c ]][[ endif ]]" := by
    intro source h
    induction h with
    | self => exact .inl rfl
    | component _ hd hname hload ih =>
      obtain rfl := hnames _ ih _ hd _ hname
      exact .inr (Except.ok.inj hload).symm
  have hsame : ∀ source name,
      Drawn {} (.ofSources [("components/c.html", "[[ if:x ]][[ component:c ]][[ endif ]]"),
        ("components/d.html", "[[ x")]) "[[ for:xs:x ]][[ component:c ]][[ endfor ]]" source →
      References source name →
      Loader.ofSources [("components/c.html", "[[ if:x ]][[ component:c ]][[ endif ]]"),
          ("components/d.html", "[[ x")] (Settings.componentPath {} name) =
        Loader.ofSources [("components/c.html", "[[ if:x ]][[ component:c ]][[ endif ]]")]
          (Settings.componentPath {} name) := by
    rintro source name h ⟨d, hd, hname⟩
    obtain rfl := hnames _ (hdrawn _ h) d hd name hname
    rfl
  exact ⟨hsame, by decide +kernel, renderAt_eq_of_reachable {} hsame 0 _⟩

end Render

end BracketTemplate
