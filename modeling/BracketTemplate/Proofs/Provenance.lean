/-
# What a render leaves in the context

A render stores something in two places only, at the opening of a loop and where
a loop is gone back to, and both times it is an element of the sequence that the
loop is over.  So a context that is left stems from the one at the beginning
(`Context.Stems`): a variable is what it was, or it is the binding of a loop and
holds an element of a sequence that occurs somewhere in the context at the
beginning.

A sequence that is reached later may have been stored by a loop.  Then it is
part of an element of another one, so it occurs at the beginning as well
(`Context.Stems.holds`), and what stems from a context that stems from another
stems from that one (`Context.Stems.trans`).  With this the invariant goes
through moves, runs and components (`State.Stems.move`, `stems_run`,
`stems_renderAt`), also through those that fail.
-/

import BracketTemplate.Proofs.Blame

namespace BracketTemplate

namespace Value

/-- Whether a value occurs in another one: it is that value, or it occurs in an
element or an entry of it. -/
inductive Within (u : Value) : Value → Prop
  | self : Within u u
  | element {v : Value} {items : List Value} (hv : v ∈ items) (h : Within u v) :
    Within u (.sequence items)
  | entry {v : Value} {name : String} {entries : List (String × Value)}
    (hv : Entries.find? name entries = some v) (h : Within u v) : Within u (.mapping entries)

theorem Within.trans {u v w : Value} (h : u.Within v) (h' : v.Within w) : u.Within w := by
  induction h' with
  | self => exact h
  | element hv _ ih => exact .element hv ih
  | entry hv _ ih => exact .entry hv ih

/-- One step of a dotted name leads to a value that occurs in the first one. -/
theorem within_of_child? {v w : Value} {segment : String} (h : v.child? segment = some w) :
    w.Within v := by
  cases v with
  | sequence items =>
    obtain ⟨i, -, hi⟩ := Option.bind_eq_some_iff.1 h
    exact .element (List.mem_of_getElem? hi) .self
  | mapping entries => exact .entry h .self
  | _ => cases h

/-- So does a walk. -/
theorem within_of_walk? {v w : Value} {path : List String} (h : v.walk? path = some w) :
    w.Within v := by
  induction path generalizing v with
  | nil =>
    rw [walk?_nil] at h
    obtain rfl := Option.some.inj h
    exact .self
  | cons segment rest ih =>
    obtain ⟨u, hu, hw⟩ := Option.bind_eq_some_iff.1 h
    exact (ih hw).trans (within_of_child? hu)

end Value

namespace Context

/-- Whether a value occurs in a context, at some depth of a variable. -/
def Holds (c : Context) (u : Value) : Prop := ∃ name v, c.get? name = some v ∧ u.Within v

/-- What a dotted name reaches occurs in the context. -/
theorem holds_of_lookup? {c : Context} {path : String} {v : Value}
    (h : c.lookup? path = some v) : c.Holds v := by
  unfold lookup? at h
  split at h
  · cases h
  · rename_i first rest _
    obtain ⟨u, hu, hv⟩ := Option.bind_eq_some_iff.1 h
    exact ⟨first, u, hu, Value.within_of_walk? hv⟩

/-- Whether a context comes of `c` by storing, under names of a certain kind,
elements of sequences that occur in `c`. -/
def Stems (bindable : String → Prop) (c c' : Context) : Prop :=
  ∀ name, c'.get? name = c.get? name ∨ (bindable name ∧
    ∃ v items, c'.get? name = some v ∧ v ∈ items ∧ c.Holds (.sequence items))

variable {bindable bindable' : String → Prop} {c c' c'' : Context}

theorem Stems.refl (bindable : String → Prop) (c : Context) : Stems bindable c c :=
  fun _ => .inl rfl

/-- **No value is invented**: what occurs in the later context occurs in the
earlier one. -/
theorem Stems.holds (h : Stems bindable c c') {u : Value} (hu : c'.Holds u) : c.Holds u := by
  obtain ⟨name, v, hv, hwithin⟩ := hu
  rcases h name with hsame | ⟨-, w, items, hw, hmem, other, whole, hwhole, hitems⟩
  · exact ⟨name, v, hsame ▸ hv, hwithin⟩
  · obtain rfl : w = v := Option.some.inj (hw.symm.trans hv)
    exact ⟨other, whole, hwhole, (Value.Within.element hmem hwithin).trans hitems⟩

theorem Stems.trans (h : Stems bindable c c') (h' : Stems bindable c' c'') :
    Stems bindable c c'' := by
  intro name
  rcases h' name with hsame | ⟨hname, v, items, hv, hmem, hitems⟩
  · rw [hsame]
    exact h name
  · exact .inr ⟨hname, v, items, hv, hmem, h.holds hitems⟩

/-- An element of a sequence may be stored. -/
theorem Stems.set (h : Stems bindable c c') {name : String} (hname : bindable name)
    {v : Value} {items : List Value} (hv : v ∈ items) (hitems : c.Holds (.sequence items)) :
    Stems bindable c (c'.set name v) := by
  intro other
  by_cases heq : name = other
  · subst heq
    exact .inr ⟨hname, v, items, get?_set_self c' name v, hv, hitems⟩
  · rw [get?_set_of_ne heq]
    exact h other

theorem Stems.mono (h : Stems bindable c c') (hle : ∀ name, bindable name → bindable' name) :
    Stems bindable' c c' :=
  fun name => (h name).imp_right fun hstored => ⟨hle name hstored.1, hstored.2⟩

/-- A name that may not be stored keeps its value. -/
theorem Stems.get?_eq {x : String} (h : Stems (· ≠ x) c c') : c'.get? x = c.get? x := by
  rcases h x with hsame | ⟨hne, -⟩
  · exact hsame
  · exact absurd rfl hne

/-- No variable disappears. -/
theorem Stems.isSome (h : Stems bindable c c') {name : String}
    (hname : (c.get? name).isSome = true) : (c'.get? name).isSome = true := by
  rcases h name with hsame | ⟨-, v, items, hv, -⟩
  · rwa [hsame]
  · rw [hv]
    rfl

end Context

/-- Whether the context of a state stems from `c`, and every loop that is open
binds a name of the kind to the elements of a sequence that occurs in `c`. -/
structure State.Stems (bindable : String → Prop) (c : Context) (s : State) : Prop where
  context : Context.Stems bindable c s.context
  bound : ∀ f ∈ s.loops, ∀ name, f.binding? = some name → bindable name
  items : ∀ f ∈ s.loops, c.Holds (.sequence f.items)

/-- Whether a directive binds only names of a certain kind, if they are legal. -/
def Directive.BindsOnly (bindable : String → Prop) (d : Directive) : Prop :=
  ∀ name, d.bound? = some name → Variable.isBindingName name = true → bindable name

namespace Machine

variable {bindable : String → Prop} {c : Context} {inclusion : Inclusion} {layer : Nat}
  {t : Template} {d : Directive} {s s' : State}

/-- A loop that binds a name stores an element of its sequence under it. -/
theorem stems_bind (h : Context.Stems bindable c s.context) {binding? : Option String}
    (hbound : ∀ name, binding? = some name → bindable name) {v : Value} {items : List Value}
    (hv : v ∈ items) (hitems : c.Holds (.sequence items)) :
    Context.Stems bindable c (s.bind binding? v).context := by
  cases binding? with
  | none => exact h
  | some name => exact h.set (hbound name rfl) hv hitems

/-- The name that a loop binds is legal. -/
theorem isBindingName_of_loopHeader {directives : List Directive} {index k : Nat}
    {context : Context} {name : String} {items : List Value}
    (h : loopHeader directives d index context = .ok (some name, k, items)) :
    Variable.isBindingName name = true := by
  obtain ⟨-, -, hbinding, -, -⟩ := loopHeader_eq_ok.1 h
  cases hargument : d.argument? 1 with
  | none =>
    rw [hargument] at hbinding
    cases hbinding
  | some argument =>
    rw [hargument, Option.mapM_some] at hbinding
    cases hname : Variable.bindingName argument with
    | error e =>
      rw [hname] at hbinding
      cases hbinding
    | ok name' =>
      rw [hname] at hbinding
      obtain ⟨hlegal, rfl⟩ := Variable.bindingName_eq_ok.1 hname
      obtain rfl := Option.some.inj (Except.ok.inj hbinding)
      exact hlegal

/-- The loop that a header opens is over a sequence that occurs in the context. -/
theorem holds_of_loopHeader {directives : List Directive} {index k : Nat} {context : Context}
    {binding? : Option String} {items : List Value}
    (h : loopHeader directives d index context = .ok (binding?, k, items)) :
    context.Holds (.sequence items) := by
  obtain ⟨name, -, hlookup⟩ := Variable.lookup?_of_loopHeader h
  exact Context.holds_of_lookup? hlookup

/-- **A move stores nothing but elements of the sequences of loops.** -/
theorem stems_of_move (h : s.Stems bindable c) (hd : d.BindsOnly bindable)
    (hinclusion : ∀ name context, d.component? = some name →
      Context.Stems bindable context (inclusion name context).context)
    (hmove : Move inclusion t d s s') : s'.Stems bindable c := by
  cases hmove with
  | pass text context _ _ hcontext =>
    refine ⟨?_, h.bound, h.items⟩
    rcases hcontext with rfl | ⟨name, hkind, hname, rfl⟩
    · exact h.context
    · refine h.context.trans (hinclusion name s.context ?_)
      rw [Directive.component?_of_component hkind]
      exact Directive.requiredArgument_eq_ok.1 hname
  | skip b k _ _ => exact ⟨h.context, h.bound, h.items⟩
  | enter binding? k first rest hkind _ hheader =>
    have hitems : c.Holds (.sequence (first :: rest)) :=
      h.context.holds (holds_of_loopHeader hheader)
    have hbound : ∀ name, binding? = some name → bindable name := by
      rintro name rfl
      exact hd name (Directive.eq_bound?_of_loopHeader hkind hheader).symm
        (isBindingName_of_loopHeader hheader)
    refine ⟨stems_bind h.context hbound List.mem_cons_self hitems, ?_, ?_⟩
    · intro f hf
      rcases List.mem_cons.1 hf with rfl | hf
      · exact hbound
      · exact h.bound f hf
    · intro f hf
      rcases List.mem_cons.1 hf with rfl | hf
      · exact hitems
      · exact h.items f hf
  | turnBack f outer item _ hloops hitem =>
    have hf : f ∈ s.loops := by rw [hloops]; exact List.mem_cons_self
    have houter : ∀ g ∈ outer, g ∈ s.loops := fun g hg => by
      rw [hloops]; exact List.mem_cons_of_mem f hg
    refine ⟨stems_bind h.context (h.bound f hf) (List.mem_of_getElem? hitem) (h.items f hf),
      ?_, ?_⟩
    · intro g hg
      rcases List.mem_cons.1 hg with rfl | hg
      · exact h.bound f hf
      · exact h.bound g (houter g hg)
    · intro g hg
      rcases List.mem_cons.1 hg with rfl | hg
      · exact h.items f hf
      · exact h.items g (houter g hg)
  | leave f outer _ hloops _ =>
    have houter : ∀ g ∈ outer, g ∈ s.loops := fun g hg => by
      rw [hloops]; exact List.mem_cons_of_mem f hg
    exact ⟨h.context, fun g hg => h.bound g (houter g hg), fun g hg => h.items g (houter g hg)⟩

/-- A directive that fails stores nothing, unless it is a component. -/
theorem context_of_dispatch_error {directives : List Directive} {e : RenderError}
    (h : (dispatch inclusion layer directives s d).flow = .error e) :
    (dispatch inclusion layer directives s d).state.context = s.context ∨
      ∃ name, d.component? = some name ∧
        (dispatch inclusion layer directives s d).state.context =
          (inclusion name s.context).context := by
  unfold dispatch at h ⊢
  cases hkind : d.kind with
  | component =>
    simp only [hkind] at h
    have hcomponent := Directive.component?_of_component hkind
    dsimp only [includeComponent] at h ⊢
    cases hname : d.requiredArgument 0 with
    | error e' => exact .inl rfl
    | ok name =>
      refine .inr ⟨name, hcomponent.trans (Directive.requiredArgument_eq_ok.1 hname), ?_⟩
      dsimp only [takeOver]
      split <;> rfl
  | loop =>
    simp only [hkind] at h
    by_cases hentry : s.isReentry = true
    · rw [if_pos hentry] at h
      cases h
    · rw [if_neg hentry] at h
      dsimp only
      rw [if_neg hentry, (openLoop_eq_error h).2]
      exact .inl rfl
  | endLoop =>
    simp only [hkind] at h
    dsimp only [closeLoop]
    rw [(closeLoop_eq_error h).1]
    exact .inl rfl
  | condition =>
    dsimp only
    split <;> exact .inl rfl
  | endCondition => exact .inl rfl
  | html =>
    simp only [hkind] at h
    exact .inl (congrArg State.context (print_flow_eq_error h).2)
  | «variable» =>
    simp only [hkind] at h
    exact .inl (congrArg State.context (print_flow_eq_error h).2)

/-- The states of a render stem from the context at its beginning. -/
theorem stems_of_reaches (ht : ∀ d ∈ t.directives, d.BindsOnly bindable)
    (hinclusion : ∀ d ∈ t.directives, ∀ name context, d.component? = some name →
      Context.Stems bindable context (inclusion name context).context)
    (hreach : Reaches inclusion layer t (start t c) s) : s.Stems bindable c := by
  induction hreach with
  | refl =>
    exact ⟨.refl bindable c, fun _ hf => absurd hf List.not_mem_nil,
      fun _ hf => absurd hf List.not_mem_nil⟩
  | tail _ hlead ih =>
    obtain ⟨events, hgo⟩ := hlead
    obtain ⟨p, hp, -, hmove⟩ := move_of_turn hgo
    have hd : p.directive ∈ t.directives := List.mem_map_of_mem (List.mem_of_getElem? hp)
    exact stems_of_move ih (ht _ hd) (hinclusion _ hd) hmove

/-- **So does the context that it leaves**, whether it succeeds or fails. -/
theorem stems_run (ht : ∀ d ∈ t.directives, d.BindsOnly bindable)
    (hinclusion : ∀ d ∈ t.directives, ∀ name context, d.component? = some name →
      Context.Stems bindable context (inclusion name context).context) :
    Context.Stems bindable c (run inclusion layer t c).context := by
  have hend : Ends inclusion layer t (start t c) (run inclusion layer t c).outcome := ends_run t c
  obtain ⟨last, r, hreach, hhalt, hr⟩ := hend.exists_halt
  have hlast : last.Stems bindable c := stems_of_reaches ht hinclusion hreach
  have hcontext : r.context = (run inclusion layer t c).context := congrArg Prod.snd hr
  rw [← hcontext]
  rcases outcome_of_halt hhalt with ⟨-, ho⟩ | ⟨p, hp, ⟨-, ho⟩ | ⟨-, e, he, ho⟩⟩
  · have hfinish : r.context = (finish last).context := congrArg Prod.snd ho
    rw [hfinish]
    unfold finish
    split <;> exact hlast.context
  · rw [show r.context = last.context from congrArg Prod.snd ho]
    exact hlast.context
  · have hd : p.directive ∈ t.directives := List.mem_map_of_mem (List.mem_of_getElem? hp)
    have hfailed : r.context =
        (dispatch inclusion layer t.directives last p.directive).state.context :=
      congrArg Prod.snd ho
    rw [hfailed]
    rcases context_of_dispatch_error he with hsame | ⟨name, hname, hcomponent⟩
    · rw [hsame]
      exact hlast.context
    · rw [hcomponent]
      exact hlast.context.trans (hinclusion _ hd name _ hname)

end Machine

namespace Render

variable (settings : Settings) (loader : Loader)

/-- Whether a name is the binding of a loop in a source that a text draws on. -/
def Bindable (text name : String) : Prop :=
  (∃ source d, Drawn settings loader text source ∧ d ∈ Directive.scan source ∧
    d.bound? = some name) ∧ Variable.isBindingName name = true

/-- What a component leaves stems from the context, if what its source leaves does. -/
theorem stems_componentAt {bindable : String → Prop} {layer : Nat} {name : String}
    {context : Context}
    (h : ∀ source, layer < maxLayer → loader (settings.componentPath name) = .ok source →
      Context.Stems bindable context
        (renderAt settings loader (layer + 1) source context).context) :
    Context.Stems bindable context (componentAt settings loader layer name context).context := by
  unfold componentAt loadThen
  split
  · rename_i hlayer
    cases hload : loader (settings.componentPath name) with
    | error e => exact .refl _ _
    | ok source => exact h source hlayer hload
  · exact .refl _ _

/-- **The context that a render leaves stems from the one at its beginning.** -/
theorem stems_renderAt (layer : Nat) (text : String) (context : Context) :
    Context.Stems (Bindable settings loader text) context
      (renderAt settings loader layer text context).context := by
  induction hleft : maxLayer - layer using Nat.strongRecOn generalizing layer text context with
  | ind left ih =>
    rw [renderAt_eq_run]
    refine Machine.stems_run (fun d hd name hname hlegal => ?_) fun d hd name context' hname => ?_
    · exact ⟨⟨text, d, .self, hd, hname⟩, hlegal⟩
    · refine stems_componentAt settings loader fun source _ hload => ?_
      have hsource := ih _ (by omega) (layer + 1) source context' rfl
      refine hsource.mono fun bound hbound => ?_
      obtain ⟨⟨source', d', hdrawn, hd', hname'⟩, hlegal⟩ := hbound
      exact ⟨⟨source', d', .of_component hd hname hload hdrawn, hd', hname'⟩, hlegal⟩

/-- **A render changes the context by the bindings of loops only, and invents no
value.**  Whether it succeeds or fails, no variable disappears; and one that is
new or has another value than before is the binding of a loop in a source that
the text draws on, has a legal name and holds an element of a sequence that
occurs in the context at the beginning. -/
theorem renderAt_changes_bindings (layer : Nat) (text : String) (context : Context) :
    (∀ name, (context.get? name).isSome = true →
      ((renderAt settings loader layer text context).context.get? name).isSome = true) ∧
    ∀ name, (renderAt settings loader layer text context).context.get? name ≠
        context.get? name →
      (∃ source d, Drawn settings loader text source ∧ d ∈ Directive.scan source ∧
        d.kind = .loop ∧ d.args[1]? = some name) ∧
      name ≠ "" ∧ (∀ c ∈ name.toList, c.isAlphanum = true ∨ c = '_') ∧
      ∃ v items, (renderAt settings loader layer text context).context.get? name = some v ∧
        v ∈ items ∧ context.Holds (.sequence items) := by
  have hstems := stems_renderAt settings loader layer text context
  refine ⟨fun name => hstems.isSome, fun name hne => ?_⟩
  rcases hstems name with hsame | ⟨⟨⟨source, d, hdrawn, hd, hbound⟩, hlegal⟩, hstored⟩
  · exact absurd hsame hne
  · obtain ⟨hkind, harg, hnonempty⟩ := Directive.bound?_eq_some.1 hbound
    refine ⟨⟨source, d, hdrawn, hd, hkind, harg⟩, hnonempty, fun c hc => ?_, hstored⟩
    have hchar := List.all_eq_true.1 hlegal c hc
    simpa [Variable.isNameChar] using hchar

end Render

end BracketTemplate
