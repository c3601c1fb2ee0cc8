/-
# Chains of references

Components are rendered any number of times, from loops and within conditions, and
the layer goes up by one with each that is around.  So a render that is refused a
component has come to it by a chain of references, one for each layer, each in the
source of the one before (`ReferenceChain`), and the layers that were left give the
length of the chain (`exists_referenceChain_of_refused`).

A text that draws on a finite depth of components has no longer chain than that
(`ReferenceChain.length_le`), and so it is not refused a component where there are
layers enough.
-/

import BracketTemplate.Proofs.Blame

namespace BracketTemplate

namespace Render

/-- Whether the source of a component refers to another. -/
def Leads (settings : Settings) (loader : Loader) (name name' : String) : Prop :=
  ∃ source, loader (settings.componentPath name) = .ok source ∧ References source name'

/-- Whether a text refers to the first of some components and the source of each to
the next one.  The last need not have a source. -/
structure ReferenceChain (settings : Settings) (loader : Loader) (text : String)
    (names : List String) : Prop where
  first : ∀ name ∈ names.head?, References text name
  next : names.IsChain (Leads settings loader)

variable {settings : Settings} {loader : Loader} {text source name : String}
  {names : List String}

/-- A text that refers to a component has its chains behind it. -/
theorem ReferenceChain.cons (hrefers : References text name)
    (hload : loader (settings.componentPath name) = .ok source)
    (h : ReferenceChain settings loader source names) :
    ReferenceChain settings loader text (name :: names) where
  first := fun _ hname' => Option.some.inj hname' ▸ hrefers
  next := List.isChain_cons.2 ⟨fun name' hname' => ⟨source, hload, h.first name' hname'⟩, h.next⟩

/-- A reference is a chain by itself. -/
theorem ReferenceChain.single (hrefers : References text name) :
    ReferenceChain settings loader text [name] where
  first := fun _ hname' => Option.some.inj hname' ▸ hrefers
  next := .singleton name

/-- A chain goes on in the source of its first component. -/
theorem ReferenceChain.exists_tail {name' : String}
    (h : ReferenceChain settings loader text (name :: name' :: names)) :
    ∃ source, loader (settings.componentPath name) = .ok source ∧
      ReferenceChain settings loader source (name' :: names) := by
  obtain ⟨⟨source, hload, hrefers⟩, hnext⟩ := List.isChain_cons_cons.1 h.next
  exact ⟨source, hload, ⟨fun _ hname'' => Option.some.inj hname'' ▸ hrefers, hnext⟩⟩

/-- Whether components go down in depth: a source that refers to one is not at the
bottom, and the source of a component is deeper down than those that refer to it. -/
def GoesDown (settings : Settings) (loader : Loader) (text : String) (depth : String → Nat) :
    Prop :=
  ∀ source name, Drawn settings loader text source → References source name →
    0 < depth source ∧
      ∀ component, loader (settings.componentPath name) = .ok component →
        depth component < depth source

/-- **A chain is not longer than the components are deep.** -/
theorem ReferenceChain.length_le {depth : String → Nat}
    (hdepth : GoesDown settings loader text depth)
    (h : ReferenceChain settings loader text names) : names.length ≤ depth text := by
  induction names generalizing text with
  | nil => exact Nat.zero_le _
  | cons name rest ih =>
    have hrefers : References text name := h.first name rfl
    obtain ⟨hpos, hless⟩ := hdepth text name .self hrefers
    cases rest with
    | nil => exact hpos
    | cons name' rest =>
      obtain ⟨source, hload, htail⟩ := h.exists_tail
      obtain ⟨d, hd, hname⟩ := hrefers
      have hsource : GoesDown settings loader source depth := fun source' name'' hdrawn =>
        hdepth source' name'' (.of_component hd hname hload hdrawn)
      exact Nat.lt_of_le_of_lt (ih hsource htail) (hless source hload)

/-- **A component is refused at the end of a chain of references**, one for each
layer that was left. -/
theorem exists_referenceChain_of_refused (hloader : loader.FailsUnavailable) {layer : Nat}
    (hlayer : layer ≤ maxLayer) {context : Context} {component : String} {deep max : Nat}
    (h : (renderAt settings loader layer text context).result =
      .error (.excessiveRecursion component deep max)) :
    deep = maxLayer + 1 ∧ max = maxLayer ∧
      ∃ names, ReferenceChain settings loader text names ∧
        names.length = maxLayer + 1 - layer ∧ names.getLast? = some component := by
  induction hleft : maxLayer - layer using Nat.strongRecOn generalizing layer text context with
  | ind left ih =>
    rw [renderAt_eq_run] at h
    rcases exists_blames_of_run settings loader (deep + 1) (Prod.ext h rfl) with
      ⟨i, d, hd, hblames⟩ | ⟨last, p, name, -, hp, hname, hcomponent⟩
    · -- a directive at fault would refuse at whichever layer is given
      obtain ⟨-, hrefused, -⟩ := hblames
      omega
    have hrefers : References text name :=
      ⟨p.directive, List.mem_of_getElem? (Template.directives_getElem? hp), hname⟩
    rcases Nat.lt_or_eq_of_le hlayer with hlt | rfl
    · cases hload : loader (settings.componentPath name) with
      | error e =>
        unfold componentAt loadThen at hcomponent
        rw [if_pos hlt, hload] at hcomponent
        obtain rfl := Except.error.inj (Prod.mk.inj hcomponent).1
        obtain ⟨path, reason, he⟩ := hloader _ _ hload
        cases he
      | ok source =>
        rw [outcome_componentAt settings loader hlt hload] at hcomponent
        obtain ⟨hdeep, hmax, names, hchain, hlength, hlast⟩ :=
          ih _ (by omega) hlt (congrArg Prod.fst hcomponent) rfl
        refine ⟨hdeep, hmax, name :: names, hchain.cons hrefers hload, ?_, ?_⟩
        · rw [List.length_cons]
          omega
        · rw [List.getLast?_cons, hlast]
          rfl
    · rw [outcome_componentAt_of_le settings loader (Nat.le_refl _)] at hcomponent
      obtain ⟨rfl, rfl, rfl⟩ := RenderError.excessiveRecursion.inj
        (Except.error.inj (Prod.mk.inj hcomponent).1)
      exact ⟨rfl, rfl, [name], .single hrefers, by rw [List.length_singleton]; omega, rfl⟩

/-- **A refusal names the end of a chain of references.**  A render at a layer up to
5 refuses a component only at layer 6, and then there are as many references from the
text to that component as there are layers up to it.  So a text without a chain of
that length is not refused a component, whatever the context; nor is one whose
components are no deeper than the layers that are left. -/
theorem refused_at_end_of_referenceChain (settings : Settings) {loader : Loader}
    (hloader : loader.FailsUnavailable) {layer : Nat} (hlayer : layer ≤ 5) (text : String)
    (context : Context) :
    (∀ component deep max, (renderAt settings loader layer text context).result =
        .error (.excessiveRecursion component deep max) →
      deep = 6 ∧ max = 5 ∧ ∃ names, ReferenceChain settings loader text names ∧
        names.length = 6 - layer ∧ names.getLast? = some component) ∧
    ((¬ ∃ names, ReferenceChain settings loader text names ∧ names.length = 6 - layer) →
      ∀ component deep max, (renderAt settings loader layer text context).result ≠
        .error (.excessiveRecursion component deep max)) ∧
    ∀ depth : String → Nat, GoesDown settings loader text depth → depth text ≤ 5 - layer →
      ∀ component deep max, (renderAt settings loader layer text context).result ≠
        .error (.excessiveRecursion component deep max) := by
  refine ⟨fun component deep max h => exists_referenceChain_of_refused hloader hlayer h,
    fun hnone component deep max h => ?_, fun depth hdepth hle component deep max h => ?_⟩
  · obtain ⟨-, -, names, hchain, hlength, -⟩ := exists_referenceChain_of_refused hloader hlayer h
    exact hnone ⟨names, hchain, hlength⟩
  · obtain ⟨-, -, names, hchain, hlength, -⟩ := exists_referenceChain_of_refused hloader hlayer h
    have hshort := hchain.length_le hdepth
    have hlong : names.length = 6 - layer := hlength
    omega

/-- A component in a loop, which includes another, at a layer with room for only one
of them and at one with room for both. -/
theorem refused_at_end_of_referenceChain_loop :
    (Loader.ofSources [("components/c.html", "[[ component:d ]]"),
      ("components/d.html", "[[ x ]];")]).FailsUnavailable ∧
    4 ≤ 5 ∧
    (renderAt {} (.ofSources [("components/c.html", "[[ component:d ]]"),
          ("components/d.html", "[[ x ]];")]) 4
        "[[ for:xs:x ]][[ component:c ]][[ endfor ]]"
        ⟨[("xs", .sequence [.integer 1, .integer 2])]⟩).result =
      .error (.excessiveRecursion "d" 6 5) ∧
    (∃ names, ReferenceChain {} (.ofSources [("components/c.html", "[[ component:d ]]"),
        ("components/d.html", "[[ x ]];")]) "[[ for:xs:x ]][[ component:c ]][[ endfor ]]" names ∧
      names.length = 6 - 4 ∧ names.getLast? = some "d") ∧
    ∀ component deep max,
      (renderAt {} (.ofSources [("components/c.html", "[[ component:d ]]"),
          ("components/d.html", "[[ x ]];")]) 3
        "[[ for:xs:x ]][[ component:c ]][[ endfor ]]"
        ⟨[("xs", .sequence [.integer 1, .integer 2])]⟩).result ≠
          .error (.excessiveRecursion component deep max) := by
  have hloader : (Loader.ofSources [("components/c.html", "[[ component:d ]]"),
      ("components/d.html", "[[ x ]];")]).FailsUnavailable := Loader.failsUnavailable_ofSources _
  have hrefused : (renderAt {} (.ofSources [("components/c.html", "[[ component:d ]]"),
      ("components/d.html", "[[ x ]];")]) 4
      "[[ for:xs:x ]][[ component:c ]][[ endfor ]]"
      ⟨[("xs", .sequence [.integer 1, .integer 2])]⟩).result =
        .error (.excessiveRecursion "d" 6 5) := by cbv
  have hchain := (refused_at_end_of_referenceChain {} hloader (show 4 ≤ 5 by decide)
    "[[ for:xs:x ]][[ component:c ]][[ endfor ]]"
    ⟨[("xs", .sequence [.integer 1, .integer 2])]⟩).1 _ _ _ hrefused
  have hnames : ∀ source, source = "[[ for:xs:x ]][[ component:c ]][[ endfor ]]" ∨
      source = "[[ component:d ]]" ∨ source = "[[ x ]];" →
      ∀ d ∈ Directive.scan source, ∀ name ∈ d.component?,
        (source = "[[ for:xs:x ]][[ component:c ]][[ endfor ]]" ∧ name = "c") ∨
          (source = "[[ component:d ]]" ∧ name = "d") := by
    rintro source (rfl | rfl | rfl) <;> decide +kernel
  have hdrawn : ∀ source,
      Drawn {} (.ofSources [("components/c.html", "[[ component:d ]]"),
        ("components/d.html", "[[ x ]];")]) "[[ for:xs:x ]][[ component:c ]][[ endfor ]]" source →
      source = "[[ for:xs:x ]][[ component:c ]][[ endfor ]]" ∨
        source = "[[ component:d ]]" ∨ source = "[[ x ]];" := by
    intro source h
    induction h with
    | self => exact .inl rfl
    | component _ hd hname hload ih =>
      obtain ⟨-, rfl⟩ | ⟨-, rfl⟩ := hnames _ ih _ hd _ hname
      · exact .inr (.inl (Except.ok.inj hload).symm)
      · exact .inr (.inr (Except.ok.inj hload).symm)
  have hdown : GoesDown {} (.ofSources [("components/c.html", "[[ component:d ]]"),
      ("components/d.html", "[[ x ]];")]) "[[ for:xs:x ]][[ component:c ]][[ endfor ]]"
      fun source => if source = "[[ x ]];" then 0
        else if source = "[[ component:d ]]" then 1 else 2 := by
    rintro source name h ⟨d, hd, hname⟩
    obtain ⟨rfl, rfl⟩ | ⟨rfl, rfl⟩ := hnames _ (hdrawn _ h) d hd name hname
    · refine ⟨by decide, fun component hload => ?_⟩
      obtain rfl : "[[ component:d ]]" = component := Except.ok.inj hload
      decide
    · refine ⟨by decide, fun component hload => ?_⟩
      obtain rfl : "[[ x ]];" = component := Except.ok.inj hload
      decide
  exact ⟨hloader, by decide, hrefused, hchain.2.2,
    (refused_at_end_of_referenceChain {} hloader (show 3 ≤ 5 by decide) _ _).2.2 _ hdown
      (by decide)⟩

end Render

end BracketTemplate
