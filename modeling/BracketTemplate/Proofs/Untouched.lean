/-
# Variables that a render does not touch

A change of the context that no directive can tell (`Directive.Overlooks`) does
nothing to a render but that it is there afterwards as well: each part of a turn
commutes with the change, from reading a variable to a whole run
(`renderAt_changeContext`).

Setting a variable is such a change if no directive mentions it.  It cannot be
seen in a look-up, which starts with the first segment of a name, and the bindings
of loops are stored beside it, before or after makes no difference
(`Context.set_comm`).
-/

import BracketTemplate.Proofs.Layers
import BracketTemplate.Proofs.Mentions
import BracketTemplate.Proofs.NameOrder

namespace BracketTemplate

namespace Context

/-- Two variables can be set in either order. -/
theorem set_comm {x y : String} (h : x ≠ y) (context : Context) (v w : Value) :
    (context.set x v).set y w = (context.set y w).set x v :=
  congrArg Context.mk (Entries.insert_comm h v w context.bindings).symm

end Context

/-- Whether a binding, if there is one, can be stored before a change of the
context as well as after it. -/
def Beside (change : Context → Context) (binding? : Option String) : Prop :=
  ∀ name, binding? = some name → ∀ context value,
    (change context).set name value = change (context.set name value)

/-- Whether a change of the context makes no difference to a directive: not to
the variable that it reads, nor to the name that it binds. -/
structure Directive.Overlooks (change : Context → Context) (d : Directive) : Prop where
  read : ∀ name, d.read? = some name → ∀ context,
    (change context).lookup? name = context.lookup? name
  bound : Beside change d.bound?

/-- A run from which the context comes out changed. -/
def Run.changeContext (change : Context → Context) (r : Run) : Run :=
  { r with context := change r.context }

/-- A state with the context changed. -/
def State.changeContext (change : Context → Context) (s : State) : State :=
  { s with context := change s.context }

/-- A directive with the context changed in which it leaves the state. -/
def Dispatch.changeContext (change : Context → Context) (r : Dispatch) : Dispatch :=
  { r with state := r.state.changeContext change }

namespace Machine

/-- A turn after which the context is changed. -/
def Turn.changeContext (change : Context → Context) : Turn → Turn
  | .go s events => .go (s.changeContext change) events
  | .halt r => .halt (r.changeContext change)

variable {change : Context → Context} {inclusion : Inclusion} {layer : Nat}
  {directives : List Directive} {s : State} {d : Directive}

/-- What is read of a variable stays the same. -/
theorem read_change {name : String} (hd : d.Overlooks change) (hname : d.read? = some name)
    (context : Context) :
    Variable.read (change context) name = Variable.read context name := by
  unfold Variable.read
  rw [hd.read name hname]

/-- So does what is printed of it. -/
theorem print_change {name : String} (hd : d.Overlooks change) (hname : d.read? = some name)
    (context : Context) :
    Variable.print (change context) name = Variable.print context name := by
  unfold Variable.print
  rw [read_change hd hname]

/-- A binding that is stored is stored beside the change. -/
theorem bind_changeContext {binding? : Option String} (h : Beside change binding?) (s : State)
    (value : Value) :
    (s.changeContext change).bind binding? value = (s.bind binding? value).changeContext change := by
  cases binding? with
  | none => rfl
  | some name =>
    exact congrArg (fun c => { s with context := c }) (h name rfl s.context value)

/-- A loop says the same. -/
theorem loopHeader_change (hd : d.Overlooks change) (hkind : d.kind = .loop) (index : Nat)
    (context : Context) :
    loopHeader directives d index (change context) = loopHeader directives d index context := by
  unfold loopHeader
  cases hname : d.requiredArgument 0 with
  | error e => rfl
  | ok name =>
    have hread := Directive.read?_of_requiredArgument (.inr (.inr hkind)) hname
    have hitems : Variable.readItems (change context) name d.line =
        Variable.readItems context name d.line := by
      unfold Variable.readItems
      rw [read_change hd hread]
    dsimp only [Bind.bind, Except.bind]
    rw [hitems]

/-- A condition leads to the same place. -/
theorem conditionFlow_change (hd : d.Overlooks change) (hkind : d.kind = .condition)
    (index : Nat) (context : Context) :
    conditionFlow directives d index (change context) =
      conditionFlow directives d index context := by
  unfold conditionFlow
  cases hname : d.requiredArgument 0 with
  | error e => rfl
  | ok name =>
    have hread := Directive.read?_of_requiredArgument (.inr (.inl hkind)) hname
    dsimp only [Bind.bind, Except.bind]
    rw [read_change hd hread]

/-- What is printed is printed as before. -/
theorem print_changeContext (s : State) (text : Except RenderError String) :
    Dispatch.print (s.changeContext change) text =
      (Dispatch.print s text).changeContext change := by
  cases text <;> rfl

/-- A loop is opened, or skipped, as before. -/
theorem openLoop_changeContext (hd : d.Overlooks change) (hkind : d.kind = .loop) (s : State) :
    openLoop layer directives (s.changeContext change) d =
      (openLoop layer directives s d).changeContext change := by
  have hheader : loopHeader directives d (s.changeContext change).cursor
      (s.changeContext change).context = loopHeader directives d s.cursor s.context :=
    loopHeader_change hd hkind s.cursor s.context
  unfold openLoop
  rw [hheader]
  cases hcase : loopHeader directives d s.cursor s.context with
  | error e => rfl
  | ok header =>
    obtain ⟨binding?, k, items⟩ := header
    cases items with
    | nil => rfl
    | cons first rest =>
      have hbound := Directive.eq_bound?_of_loopHeader hkind hcase
      have hbind := bind_changeContext (hbound ▸ hd.bound) s first
      dsimp only
      rw [hbind]
      rfl

/-- The innermost loop is gone back to, or left, as before. -/
theorem closeLoop_changeContext (hloops : ∀ f ∈ s.loops, Beside change f.binding?)
    (d : Directive) :
    closeLoop layer (s.changeContext change) d =
      (closeLoop layer s d).changeContext change := by
  have hsame : (s.changeContext change).loops = s.loops := rfl
  unfold closeLoop
  rw [hsame]
  cases hl : s.loops with
  | nil => rfl
  | cons f outer =>
    dsimp only
    cases f.items[f.current + 1]? with
    | none => rfl
    | some item =>
      have hbind := bind_changeContext (hloops f (by rw [hl]; exact List.mem_cons_self)) s item
      dsimp only
      rw [hbind]
      rfl

/-- **A directive does the same after the change as before it.** -/
theorem dispatch_changeContext (hd : d.Overlooks change)
    (hloops : ∀ f ∈ s.loops, Beside change f.binding?)
    (hinclusion : ∀ name context,
      inclusion name (change context) = (inclusion name context).changeContext change) :
    dispatch inclusion layer directives (s.changeContext change) d =
      (dispatch inclusion layer directives s d).changeContext change := by
  unfold dispatch
  cases hkind : d.kind with
  | component =>
    dsimp only [includeComponent]
    cases d.requiredArgument 0 with
    | error e => rfl
    | ok name =>
      dsimp only [State.changeContext]
      rw [hinclusion]
      unfold takeOver Run.changeContext
      dsimp only
      cases (inclusion name s.context).result <;> rfl
  | loop =>
    have hentry : (s.changeContext change).isReentry = s.isReentry := rfl
    dsimp only
    rw [hentry]
    split
    · rfl
    · exact openLoop_changeContext hd hkind s
  | endLoop => exact closeLoop_changeContext hloops d
  | condition =>
    have hflow : conditionFlow directives d (s.changeContext change).cursor
        (s.changeContext change).context = conditionFlow directives d s.cursor s.context :=
      conditionFlow_change hd hkind s.cursor s.context
    dsimp only
    rw [hflow]
    cases conditionFlow directives d s.cursor s.context <;> rfl
  | endCondition => rfl
  | html =>
    have hprint : (d.requiredArgument 0 >>= Variable.print (s.changeContext change).context) =
        d.requiredArgument 0 >>= Variable.print s.context := by
      cases hname : d.requiredArgument 0 with
      | error e => rfl
      | ok name =>
        exact print_change hd (Directive.read?_of_requiredArgument (.inl hkind) hname) s.context
    dsimp only
    rw [hprint]
    exact print_changeContext s _
  | «variable» =>
    have hprint : Variable.print (s.changeContext change).context d.keyword =
        Variable.print s.context d.keyword :=
      print_change hd (Directive.read?_of_variable hkind) s.context
    dsimp only
    rw [hprint]
    exact print_changeContext s _

variable {t : Template}

/-- A move opens a loop only for a directive of the template. -/
theorem beside_of_move {s' : State} {p : Piece} (h : ∀ f ∈ s.loops, Beside change f.binding?)
    (hd : p.directive.Overlooks change) (hmove : Move inclusion t p.directive s s') :
    ∀ f ∈ s'.loops, Beside change f.binding? := by
  cases hmove with
  | pass text context _ _ _ => exact h
  | skip b k _ _ => exact h
  | enter binding? k first rest hkind _ hheader =>
    intro f hf
    rcases List.mem_cons.1 hf with rfl | hf
    · exact Directive.eq_bound?_of_loopHeader hkind hheader ▸ hd.bound
    · exact h f hf
  | turnBack f outer item _ hl _ =>
    intro g hg
    rcases List.mem_cons.1 hg with rfl | hg
    · exact h f (by rw [hl]; exact List.mem_cons_self)
    · exact h g (by rw [hl]; exact List.mem_cons_of_mem f hg)
  | leave f outer _ hl _ =>
    exact fun g hg => h g (by rw [hl]; exact List.mem_cons_of_mem f hg)

/-- A turn is the same after the change as before it. -/
theorem turn_changeContext (ht : ∀ p ∈ t.pieces, p.directive.Overlooks change)
    (hloops : ∀ f ∈ s.loops, Beside change f.binding?)
    (hinclusion : ∀ name context,
      inclusion name (change context) = (inclusion name context).changeContext change) :
    turn inclusion layer t (s.changeContext change) =
      (turn inclusion layer t s).changeContext change := by
  have hcursor : (s.changeContext change).cursor = s.cursor := rfl
  have hsteps : (s.changeContext change).steps = s.steps := rfl
  unfold turn
  rw [hcursor, hsteps]
  cases hp : t.pieces[s.cursor]? with
  | none =>
    have hsame : (s.changeContext change).loops = s.loops := rfl
    dsimp only [finish]
    rw [hsame]
    cases s.loops <;> rfl
  | some p =>
    dsimp only
    split
    · rfl
    · rw [dispatch_changeContext (ht p (List.mem_of_getElem? hp)) hloops hinclusion]
      generalize dispatch inclusion layer t.directives s p.directive = r
      obtain ⟨flow, state, events⟩ := r
      cases flow with
      | error e => rfl
      | ok flow => cases flow <;> rfl

/-- **A run is the same after the change as before it.** -/
theorem run_changeContext (ht : ∀ p ∈ t.pieces, p.directive.Overlooks change)
    (hinclusion : ∀ name context,
      inclusion name (change context) = (inclusion name context).changeContext change)
    (context : Context) :
    run inclusion layer t (change context) =
      (run inclusion layer t context).changeContext change := by
  have hfor : ∀ turns s, (∀ f ∈ s.loops, Beside change f.binding?) →
      runFor inclusion layer t turns (s.changeContext change) =
        (runFor inclusion layer t turns s).changeContext change := by
    intro turns
    induction turns with
    | zero => exact fun s _ => rfl
    | succ turns ih =>
      intro s hs
      unfold runFor
      rw [turn_changeContext ht hs hinclusion]
      cases hturn : turn inclusion layer t s with
      | halt r => rfl
      | go s' events =>
        obtain ⟨p, hp, -, hmove⟩ := move_of_turn hturn
        exact congrArg (Run.after events)
          (ih s' (beside_of_move hs (ht p (List.mem_of_getElem? hp)) hmove))
  unfold run
  split
  · rfl
  · exact congrArg (Run.after _)
      (hfor maxTurns (start t context) fun f hf => absurd hf List.not_mem_nil)

end Machine

namespace Render

/-- **A render is the same after a change that is overlooked as before it.** -/
theorem renderAt_changeContext {settings : Settings} {loader : Loader}
    {change : Context → Context} {text : String}
    (htext : ∀ d ∈ Directive.scan text, d.Overlooks change)
    (hloader : ∀ path source, loader path = .ok source →
      ∀ d ∈ Directive.scan source, d.Overlooks change) (layer : Nat) (context : Context) :
    renderAt settings loader layer text (change context) =
      (renderAt settings loader layer text context).changeContext change := by
  induction hleft : maxLayer - layer using Nat.strongRecOn generalizing layer text context with
  | ind left ih =>
    rw [renderAt_eq_run, renderAt_eq_run]
    refine Machine.run_changeContext (fun p hp => htext _ (List.mem_map_of_mem hp))
      (fun name context => ?_) context
    unfold componentAt loadThen
    split
    · cases hload : loader (settings.componentPath name) with
      | error e => rfl
      | ok source =>
        have hsource := ih _ (by omega) (hloader _ source hload) (layer + 1) context rfl
        dsimp only
        rw [hsource]
        rfl
    · rfl

/-- **A render reads only the variables that it names.**  If no directive of the
text or of a source reads a name that starts with `x` or binds `x`, then the
render after `x` has been set does the same and comes to the same result, and `x`
is set in the context that it leaves. -/
theorem renderAt_set_of_unmentioned (settings : Settings) (loader : Loader) {x text : String}
    (hread : ∀ source, source = text ∨ (∃ path, loader path = .ok source) →
      ∀ d ∈ Directive.scan source, ∀ name ∈ d.read?, (Context.segments name).head? ≠ some x)
    (hbound : ∀ source, source = text ∨ (∃ path, loader path = .ok source) →
      ∀ d ∈ Directive.scan source, d.bound? ≠ some x)
    (layer : Nat) (context : Context) (v : Value) :
    renderAt settings loader layer text (context.set x v) =
      { renderAt settings loader layer text context with
        context := (renderAt settings loader layer text context).context.set x v } := by
  have hoverlooks : ∀ source, source = text ∨ (∃ path, loader path = .ok source) →
      ∀ d ∈ Directive.scan source, d.Overlooks (·.set x v) := fun source hsource d hd => {
    read := fun name hname context =>
      Context.lookup?_set_of_head?_ne (hread source hsource d hd name hname) context v
    bound := fun name hname context value =>
      Context.set_comm (fun hx : x = name => hbound source hsource d hd (hx ▸ hname))
        context v value }
  exact renderAt_changeContext (hoverlooks text (.inl rfl))
    (fun path source hload => hoverlooks source (.inr ⟨path, hload⟩)) layer context

/-- A component in a loop, and a variable whose name only starts alike. -/
theorem renderAt_set_of_unmentioned_loop :
    (∀ source, source = "[[ for:xs:x ]][[ component:c ]][[ endfor ]][[ ys ]]" ∨
        (∃ path, Loader.ofSources [("components/c.html", "[[ if:x.y ]][[ x.y ]][[ endif ]]")] path =
          .ok source) →
      ∀ d ∈ Directive.scan source, ∀ name ∈ d.read?,
        (Context.segments name).head? ≠ some "y") ∧
    (∀ source, source = "[[ for:xs:x ]][[ component:c ]][[ endfor ]][[ ys ]]" ∨
        (∃ path, Loader.ofSources [("components/c.html", "[[ if:x.y ]][[ x.y ]][[ endif ]]")] path =
          .ok source) →
      ∀ d ∈ Directive.scan source, d.bound? ≠ some "y") ∧
    renderAt {} (.ofSources [("components/c.html", "[[ if:x.y ]][[ x.y ]][[ endif ]]")]) 0
        "[[ for:xs:x ]][[ component:c ]][[ endfor ]][[ ys ]]"
        (Context.set ⟨[("xs", .sequence [.mapping [("y", .integer 1)]])]⟩ "y" .null) =
      { renderAt {} (.ofSources [("components/c.html", "[[ if:x.y ]][[ x.y ]][[ endif ]]")]) 0
          "[[ for:xs:x ]][[ component:c ]][[ endfor ]][[ ys ]]"
          ⟨[("xs", .sequence [.mapping [("y", .integer 1)]])]⟩ with
        context := (renderAt {}
          (.ofSources [("components/c.html", "[[ if:x.y ]][[ x.y ]][[ endif ]]")]) 0
          "[[ for:xs:x ]][[ component:c ]][[ endfor ]][[ ys ]]"
          ⟨[("xs", .sequence [.mapping [("y", .integer 1)]])]⟩).context.set "y" .null } := by
  have hsources : ∀ source, source = "[[ for:xs:x ]][[ component:c ]][[ endfor ]][[ ys ]]" ∨
      (∃ path, Loader.ofSources [("components/c.html", "[[ if:x.y ]][[ x.y ]][[ endif ]]")] path =
        .ok source) →
      source = "[[ for:xs:x ]][[ component:c ]][[ endfor ]][[ ys ]]" ∨
        source = "[[ if:x.y ]][[ x.y ]][[ endif ]]" := by
    rintro source (h | ⟨path, h⟩)
    · exact .inl h
    · refine .inr ?_
      unfold Loader.ofSources Entries.find? at h
      split_ifs at h
      · exact (Except.ok.inj h).symm
      · cases h
  have hread : ∀ source, source = "[[ for:xs:x ]][[ component:c ]][[ endfor ]][[ ys ]]" ∨
      (∃ path, Loader.ofSources [("components/c.html", "[[ if:x.y ]][[ x.y ]][[ endif ]]")] path =
        .ok source) →
      ∀ d ∈ Directive.scan source, ∀ name ∈ d.read?,
        (Context.segments name).head? ≠ some "y" := by
    intro source h
    rcases hsources source h with rfl | rfl <;> decide +kernel
  have hbound : ∀ source, source = "[[ for:xs:x ]][[ component:c ]][[ endfor ]][[ ys ]]" ∨
      (∃ path, Loader.ofSources [("components/c.html", "[[ if:x.y ]][[ x.y ]][[ endif ]]")] path =
        .ok source) →
      ∀ d ∈ Directive.scan source, d.bound? ≠ some "y" := by
    intro source h
    rcases hsources source h with rfl | rfl <;> decide +kernel
  exact ⟨hread, hbound, renderAt_set_of_unmentioned {} _ hread hbound 0 _ .null⟩

end Render

end BracketTemplate
