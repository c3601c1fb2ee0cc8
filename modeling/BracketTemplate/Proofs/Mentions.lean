/-
# What a directive mentions

| directive | reads | binds | includes |
| --- | --- | --- | --- |
| variable | its keyword | | |
| html, condition | its first argument | | |
| loop | its first argument | its second argument | |
| component | | | its first argument |

A name that is mentioned is made of body characters other than the colon, since
it is a segment of a body (`isArgumentChar_of_mem`).  So the only character that
can make a dotted name illegal is `-`, and in the name of a binding `.` as well.

`Drawn` collects the sources that a text draws on: the text itself, the sources
of the components that it includes, those of the components that these include,
and so on.
-/

import BracketTemplate.Proofs.DottedNames
import BracketTemplate.Proofs.Layout
import BracketTemplate.Proofs.Variables

namespace BracketTemplate

namespace Directive

/-- The name of the variable that a directive reads. -/
def read? (d : Directive) : Option String :=
  match d.kind with
  | .variable => some d.keyword
  | .html | .condition | .loop => d.argument? 0
  | .component | .endLoop | .endCondition => none

/-- The name that a directive binds to the items of a sequence. -/
def bound? (d : Directive) : Option String :=
  match d.kind with
  | .loop => d.argument? 1
  | _ => none

/-- The name of the component that a directive includes. -/
def component? (d : Directive) : Option String :=
  match d.kind with
  | .component => d.argument? 0
  | _ => none

variable {d : Directive}

theorem read?_of_variable (h : d.kind = .variable) : d.read? = some d.keyword := by
  unfold read?
  rw [h]

theorem read?_of_argument (h : d.kind = .html ∨ d.kind = .condition ∨ d.kind = .loop) :
    d.read? = d.argument? 0 := by
  unfold read?
  rcases h with h | h | h <;> rw [h]

/-- The argument that a directive cannot do without is the name that it reads. -/
theorem read?_of_requiredArgument {name : String}
    (h : d.kind = .html ∨ d.kind = .condition ∨ d.kind = .loop)
    (hname : d.requiredArgument 0 = .ok name) : d.read? = some name :=
  (read?_of_argument h).trans (requiredArgument_eq_ok.1 hname)

theorem bound?_of_loop (h : d.kind = .loop) : d.bound? = d.argument? 1 := by
  unfold bound?
  rw [h]

/-- A name is bound by a loop that has it for its second argument. -/
theorem bound?_eq_some {name : String} :
    d.bound? = some name ↔ d.kind = .loop ∧ d.args[1]? = some name ∧ name ≠ "" := by
  unfold bound? argument?
  cases d.kind <;> simp [Option.filter_eq_some_iff]

theorem component?_of_component (h : d.kind = .component) : d.component? = d.argument? 0 := by
  unfold component?
  rw [h]

/-- The name that the header of a loop gives is the one that the loop binds. -/
theorem eq_bound?_of_loopHeader {directives : List Directive} {index k : Nat} {context : Context}
    {binding? : Option String} {items : List Value} (hkind : d.kind = .loop)
    (h : Machine.loopHeader directives d index context = .ok (binding?, k, items)) :
    binding? = d.bound? := by
  obtain ⟨name, -, hbinding, -, -⟩ := Machine.loopHeader_eq_ok.1 h
  exact (Variable.mapM_bindingName_eq_ok hbinding).trans (bound?_of_loop hkind).symm

/-- Whether a character may stand in a segment of a body. -/
def isArgumentChar (c : Char) : Bool := isBodyChar c && c != ':'

/-- **The segments of a directive are made of body characters other than the
colon.** -/
theorem isArgumentChar_of_mem {text segment : String} (hd : d ∈ scan text)
    (h : segment ∈ d.keyword :: d.args) {c : Char} (hc : c ∈ segment.toList) :
    isArgumentChar c = true := by
  obtain ⟨p, hp, rfl⟩ := List.mem_map.1 hd
  obtain ⟨pre, post, -, hbody, hof⟩ :=
    Template.exists_of_mem_laidFrom (Template.laid_ofText text) hp
  generalize p.directive.body = body at hbody hof
  -- the segments are the pieces of the body between its colons
  have hsegments : p.directive.keyword :: p.directive.args =
      (body.splitOn ':').map String.ofList := by
    rw [hof]
    simp only [ofBody]
    cases hsplit : body.splitOn ':' with
    | nil => exact absurd hsplit (List.splitOn_ne_nil ':' body)
    | cons first rest => rfl
  rw [hsegments] at h
  obtain ⟨cs, hcs, rfl⟩ := List.mem_map.1 h
  rw [String.toList_ofList] at hc
  obtain ⟨hmem, hne⟩ := mem_and_ne_of_mem_splitOn hcs hc
  rw [isArgumentChar, hbody.2 c hmem, Bool.true_and]
  exact bne_iff_ne.2 hne

/-- A name that a directive reads is one of its segments. -/
theorem mem_of_read? {name : String} (h : d.read? = some name) : name ∈ d.keyword :: d.args := by
  unfold read? at h
  split at h
  · rw [← Option.some.inj h]
    exact List.mem_cons_self
  all_goals first
    | exact List.mem_cons_of_mem _ (mem_args_of_argument? h)
    | cases h

/-- So is a name that it binds. -/
theorem mem_of_bound? {name : String} (h : d.bound? = some name) :
    name ∈ d.keyword :: d.args := by
  unfold bound? at h
  split at h
  · exact List.mem_cons_of_mem _ (mem_args_of_argument? h)
  · cases h

end Directive

namespace Render

/-- Whether a text includes a component, or would if it came to the directive. -/
def References (text name : String) : Prop :=
  ∃ d ∈ Directive.scan text, d.component? = some name

/-- The sources that a text draws on: itself, and those of the components that a
source among them includes. -/
inductive Drawn (settings : Settings) (loader : Loader) (text : String) : String → Prop
  | self : Drawn settings loader text text
  | component {source component name : String} {d : Directive}
    (h : Drawn settings loader text source) (hd : d ∈ Directive.scan source)
    (hname : d.component? = some name)
    (hload : loader (settings.componentPath name) = .ok component) :
    Drawn settings loader text component

/-- What a text draws on is the text itself or a source that the loader has. -/
theorem Drawn.eq_or_exists {settings : Settings} {loader : Loader} {text source : String}
    (h : Drawn settings loader text source) : source = text ∨ ∃ path, loader path = .ok source := by
  cases h with
  | self => exact .inl rfl
  | component _ _ _ hload => exact .inr ⟨_, hload⟩

/-- What a component draws on, a text that includes it draws on. -/
theorem Drawn.of_component {settings : Settings} {loader : Loader}
    {text source component name : String} {d : Directive} (hd : d ∈ Directive.scan text)
    (hname : d.component? = some name)
    (hload : loader (settings.componentPath name) = .ok component)
    (h : Drawn settings loader component source) : Drawn settings loader text source := by
  induction h with
  | self => exact .component .self hd hname hload
  | component _ hd' hname' hload' ih => exact .component ih hd' hname' hload'

end Render

end BracketTemplate
