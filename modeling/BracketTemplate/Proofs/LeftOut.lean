/-
# What a block that is left out may hold

| block | opening | end | left out when the variable is |
| --- | --- | --- | --- |
| condition | `[[ if:v ]]` | `[[ endif ]]` | not true |
| loop | `[[ for:v ]]` | `[[ endfor ]]` | an empty sequence |
| loop that binds a name | `[[ for:v:name ]]` | `[[ endfor ]]` | an empty sequence |

The opening and the end are directives of their own wherever they are put
(`Template.ofText_block`).  So if loops pair up in the body, and conditions do, the
text with it and the text with nothing in its place come to the same
(`outcome_renderAt_of_omits`): the body may read what there is not, include what
cannot be loaded and have loops and conditions that cross.
-/

import BracketTemplate.Proofs.Blanks

namespace BracketTemplate

namespace Directive

variable {v : String} {keyword tail : List Char}

/-- A dotted name is made of body characters other than the colon. -/
theorem isBodyChar_of_isDottedName (hv : Variable.isDottedName v = true) :
    (∀ c ∈ v.toList, isBodyChar c = true) ∧ ':' ∉ v.toList := by
  have hall : ∀ c ∈ v.toList, (Variable.isNameChar c || c == '.') = true := List.all_eq_true.1 hv
  refine ⟨fun c hc => ?_, fun hc => absurd (hall _ hc) (by decide)⟩
  have hchar := hall c hc
  simp only [Variable.isNameChar, Bool.or_eq_true, beq_iff_eq] at hchar
  simp only [isBodyChar, Bool.or_eq_true, beq_iff_eq]
  tauto

/-- A keyword, a dotted name and perhaps more arguments are a body, and the name is
the first argument. -/
theorem isBody_argument (hne : keyword ≠ []) (hkeyword : keyword.all isArgumentChar = true)
    (hv : Variable.isDottedName v = true)
    (htail : tail = [] ∨ ∃ more, tail = ':' :: more ∧ ∀ c ∈ more, isBodyChar c = true) :
    IsBody (keyword ++ ':' :: (v.toList ++ tail)) ∧
      ∀ start line, (ofBody (keyword ++ ':' :: (v.toList ++ tail)) start line).keyword =
          String.ofList keyword ∧
        (ofBody (keyword ++ ':' :: (v.toList ++ tail)) start line).args[0]? = some v := by
  obtain ⟨hchars, hcolon⟩ := isBodyChar_of_isDottedName hv
  have hsegment : ∀ c ∈ keyword, isBodyChar c = true ∧ c ≠ ':' := by
    simpa [isArgumentChar] using hkeyword
  refine ⟨⟨List.append_ne_nil_of_left_ne_nil hne _, fun c hc => ?_⟩, fun start line => ?_⟩
  · rcases List.mem_append.1 hc with hc | hc
    · exact (hsegment c hc).1
    · rcases List.mem_cons.1 hc with rfl | hc
      · decide
      · rcases List.mem_append.1 hc with hc | hc
        · exact hchars c hc
        · rcases htail with rfl | ⟨more, rfl, hmore⟩
          · exact absurd hc List.not_mem_nil
          · rcases List.mem_cons.1 hc with rfl | hc
            · decide
            · exact hmore c hc
  · have hsplit : ∃ others, (v.toList ++ tail).splitOn ':' = v.toList :: others := by
      rcases htail with rfl | ⟨more, rfl, -⟩
      · rw [List.append_nil]
        exact ⟨[], List.splitOn_eq_singleton hcolon⟩
      · exact ⟨_, List.splitOn_append_cons_self_of_not_mem hcolon more⟩
    obtain ⟨others, hsplit⟩ := hsplit
    unfold ofBody
    rw [List.splitOn_append_cons_self_of_not_mem fun hc => (hsegment _ hc).2 rfl, hsplit]
    exact ⟨rfl, congrArg some String.ofList_toList⟩

end Directive

/-- How a block over a variable is written: its opening and its end. -/
inductive Block.Written : Block → (v opener closer : String) → Prop
  | condition (v : String) : Written .condition v ("[[ if:" ++ v ++ " ]]") "[[ endif ]]"
  | loop (v : String) : Written .loop v ("[[ for:" ++ v ++ " ]]") "[[ endfor ]]"
  | binding (v name : String) (hname : ∀ c ∈ name.toList, Directive.isBodyChar c = true) :
    Written .loop v ("[[ for:" ++ v ++ ":" ++ name ++ " ]]") "[[ endfor ]]"

namespace Block.Written

open Directive

variable {b : Block} {v opener closer : String}

/-- Its end is a directive. -/
theorem exists_closer (h : b.Written v opener closer) :
    ∃ body, closer = String.ofList (spelling body) ∧ IsBody body ∧
      ∀ start line, (ofBody body start line).kind = b.closer := by
  have hendif : ['e', 'n', 'd', 'i', 'f'].all isBodyChar = true := by decide
  have hendfor : ['e', 'n', 'd', 'f', 'o', 'r'].all isBodyChar = true := by decide
  cases h with
  | condition =>
    exact ⟨_, rfl, ⟨List.cons_ne_nil _ _, List.all_eq_true.1 hendif⟩, fun _ _ => rfl⟩
  | loop => exact ⟨_, rfl, ⟨List.cons_ne_nil _ _, List.all_eq_true.1 hendfor⟩, fun _ _ => rfl⟩
  | binding =>
    exact ⟨_, rfl, ⟨List.cons_ne_nil _ _, List.all_eq_true.1 hendfor⟩, fun _ _ => rfl⟩

/-- So is its opening, with the variable for its first argument. -/
theorem exists_opener (h : b.Written v opener closer) (hv : Variable.isDottedName v = true) :
    ∃ body, opener = String.ofList (spelling body) ∧ IsBody body ∧
      ∀ start line, (ofBody body start line).kind = b.opener ∧
        (ofBody body start line).args[0]? = some v := by
  obtain ⟨keyword, tail, hne, hkeyword, hkind, htail, htext⟩ :
      ∃ keyword tail : List Char, keyword ≠ [] ∧ keyword.all isArgumentChar = true ∧
        Kind.ofKeyword (String.ofList keyword) = b.opener ∧
        (tail = [] ∨ ∃ more, tail = ':' :: more ∧ ∀ c ∈ more, isBodyChar c = true) ∧
        opener.toList = spelling (keyword ++ ':' :: (v.toList ++ tail)) := by
    cases h with
    | condition =>
      exact ⟨['i', 'f'], [], List.cons_ne_nil _ _, by decide, rfl, .inl rfl,
        by simp [spelling, opening, closing]⟩
    | loop =>
      exact ⟨['f', 'o', 'r'], [], List.cons_ne_nil _ _, by decide, rfl, .inl rfl,
        by simp [spelling, opening, closing]⟩
    | binding _ name hname =>
      exact ⟨['f', 'o', 'r'], ':' :: name.toList, List.cons_ne_nil _ _, by decide, rfl,
        .inr ⟨name.toList, rfl, hname⟩, by simp [spelling, opening, closing]⟩
  obtain ⟨hbody, hsegments⟩ := isBody_argument hne hkeyword hv htail
  refine ⟨_, ?_, hbody, fun start line => ?_⟩
  · rw [← htext, String.ofList_toList]
  · obtain ⟨hfirst, hargument⟩ := hsegments start line
    exact ⟨(congrArg Kind.ofKeyword hfirst).trans hkind, hargument⟩

end Block.Written

namespace Template

theorem append_block (P B Q : Template) (o c : Directive) :
    (P.append (single o)).append ((B.append (single c)).append Q) =
      (P.append (block o B c)).append Q := by
  simp only [block, append_assoc]

/-- A directive between two texts that stand below another one. -/
theorem below_around {body : List Char} (h : Directive.IsBody body) (front a b : String) :
    below front (a ++ String.ofList (Directive.spelling body) ++ b) =
      ((below front a).append (single (.ofBody body (0 + (front ++ a).utf8ByteSize)
        (1 + (front ++ a).toList.count '\n')))).append
        (below (front ++ a ++ String.ofList (Directive.spelling body)) b) := by
  have hfront : (ofText a).shift front.utf8ByteSize (front.toList.count '\n') = below front a := rfl
  rw [below, ofText_around h, shift_append, shift_append, shift_below, shift_below,
    below_spelling h, hfront, ← String.append_assoc]

/-- **A block in a text is a block of its template**, whatever its body. -/
theorem ofText_block {opener closer : List Char} (ho : Directive.IsBody opener)
    (hc : Directive.IsBody closer) (pre body post : String) :
    ∃ start line,
      ofText (pre ++ String.ofList (Directive.spelling opener) ++ body ++
          String.ofList (Directive.spelling closer) ++ post) =
        ((ofText pre).append (block
          (.ofBody opener (0 + pre.utf8ByteSize) (1 + pre.toList.count '\n'))
          (below (pre ++ String.ofList (Directive.spelling opener)) body)
          (.ofBody closer start line))).append
          (below (pre ++ String.ofList (Directive.spelling opener) ++ body ++
            String.ofList (Directive.spelling closer)) post) := by
  have htext : pre ++ String.ofList (Directive.spelling opener) ++ body ++
      String.ofList (Directive.spelling closer) ++ post =
        pre ++ String.ofList (Directive.spelling opener) ++
          (body ++ String.ofList (Directive.spelling closer) ++ post) := by
    simp only [String.append_assoc]
  rw [htext, ofText_around ho, below_spelling ho, below_around hc]
  exact ⟨_, _, append_block ..⟩

end Template

/-- A block is left out as long as nothing is stored under the first segment of its
variable. -/
theorem Block.Omits.of_stems {b : Block} {v x : String} {c c' : Context} (h : b.Omits c v)
    (hx : (Context.segments v).head? = some x) (hstems : Context.Stems (· ≠ x) c c') :
    b.Omits c' v := by
  obtain ⟨value, hread, hvalue⟩ := h
  obtain ⟨hlegal, hlookup⟩ := Variable.read_eq_ok.1 hread
  rw [← Context.lookup?_congr hx hstems.get?_eq] at hlookup
  exact ⟨value, Variable.read_eq_ok.2 ⟨hlegal, hlookup⟩, hvalue⟩

namespace Render

variable {settings : Settings} {loader : Loader}

/-- A component stores nothing under a name that no source binds. -/
theorem stems_componentAt_of_unbound {x : String}
    (hunbound : ∀ path source, loader path = .ok source →
      ∀ d ∈ Directive.scan source, d.bound? ≠ some x)
    (layer : Nat) (name : String) (context : Context) :
    Context.Stems (· ≠ x) context (componentAt settings loader layer name context).context := by
  refine stems_componentAt settings loader fun source _ hload => ?_
  refine (stems_renderAt settings loader (layer + 1) source context).mono fun bound hbound => ?_
  rintro rfl
  obtain ⟨⟨source', d, hdrawn, hd, hname⟩, -⟩ := hbound
  rcases hdrawn.eq_or_exists with rfl | ⟨path, hpath⟩
  · exact hunbound _ _ hload d hd hname
  · exact hunbound path source' hpath d hd hname

/-- **What is in a block that is left out does not matter.**  The block is a
condition that does not hold or a loop over no items, and no loop around it or in
a component binds the first segment of its variable.  If loops pair up in its
body, and conditions do, the text with the body comes to the same result as the
text without it, but for the line in an error, and leaves the same context; and no
directive of the body is ever come to. -/
theorem outcome_renderAt_of_omits (settings : Settings) (loader : Loader) (layer : Nat)
    {b : Block} {v x opener closer pre post : String} {context : Context}
    (hwritten : b.Written v opener closer) (homits : b.Omits context v)
    (hx : (Context.segments v).head? = some x)
    (hunbound : ∀ source, source = pre ∨ source = post ∨ (∃ path, loader path = .ok source) →
      ∀ d ∈ Directive.scan source, d.bound? ≠ some x)
    {body : String} (hloop : Block.loop.Balanced (Directive.scan body))
    (hcondition : Block.condition.Balanced (Directive.scan body)) :
    Outcome.unplaced (renderAt settings loader layer
        (pre ++ opener ++ body ++ closer ++ post) context).outcome =
      Outcome.unplaced (renderAt settings loader layer
        (pre ++ opener ++ closer ++ post) context).outcome ∧
    ∀ s, Machine.Reaches (componentAt settings loader layer) layer
        (.ofText (pre ++ opener ++ body ++ closer ++ post))
        (Machine.start (.ofText (pre ++ opener ++ body ++ closer ++ post)) context) s →
      s.cursor ≤ (Directive.scan pre).length ∨
        (Directive.scan pre).length + (Directive.scan body).length + 1 < s.cursor := by
  have hbalanced : ∀ b' : Block, b'.Balanced (Directive.scan body) := by
    intro b'
    cases b' with
    | loop => exact hloop
    | condition => exact hcondition
  have hempty : ∀ b' : Block, b'.Balanced (Directive.scan "") := by
    intro b'
    cases b' <;> decide
  obtain ⟨value, hread, -⟩ := id homits
  obtain ⟨hlegal, -⟩ := Variable.read_eq_ok.1 hread
  obtain ⟨o, rfl, ho, hopens⟩ := hwritten.exists_opener hlegal
  obtain ⟨c, rfl, hc, hcloses⟩ := hwritten.exists_closer
  obtain ⟨hopener, hv⟩ := hopens (0 + pre.utf8ByteSize) (1 + pre.toList.count '\n')
  have hencloses : ∀ front text start line, (∀ b' : Block, b'.Balanced (Directive.scan text)) →
      Machine.Encloses b (.ofBody o (0 + pre.utf8ByteSize) (1 + pre.toList.count '\n'))
        (.below front text) (.ofBody c start line) := by
    intro front text start line htext
    refine ⟨hopener, hcloses start line, fun b' => ?_⟩
    rw [Template.below, Template.directives_shift]
    exact b'.balanced_shift (htext b') _ _
  have hspares : Machine.Spares (componentAt settings loader layer) (.ofText pre) (.ofText post)
      x := by
    refine ⟨fun d hd => ?_, stems_componentAt_of_unbound (fun path source hload =>
      hunbound source (.inr (.inr ⟨path, hload⟩))) layer⟩
    rcases hd with hd | hd
    · exact hunbound pre (.inl rfl) d hd
    · exact hunbound post (.inr (.inl rfl)) d hd
  obtain ⟨start, line, hfull⟩ := Template.ofText_block ho hc pre body post
  obtain ⟨start', line', hbare⟩ := Template.ofText_block ho hc pre "" post
  rw [String.append_empty] at hbare
  rw [renderAt_eq_run, renderAt_eq_run, hfull, hbare]
  constructor
  · exact Machine.unplaced_run_block hspares hv (fun _ hstems => homits.of_stems hx hstems)
      (hencloses _ body start line hbalanced) (Template.like_below _ post)
      (hencloses _ "" start' line' hempty) (Template.like_below _ post)
  · intro s hreach
    have hcursor := Machine.cursor_of_reaches hspares hv
      (fun _ hstems => homits.of_stems hx hstems) (hencloses _ body start line hbalanced)
      (Template.like_below _ post) hreach
    rw [Template.below, Template.length_shift] at hcursor
    unfold Directive.scan
    rw [Template.length_directives, Template.length_directives]
    exact hcursor

/-- A condition in a loop.  Its body is left out at every item, with blocks that
cross, a name that is illegal and a component that there is not. -/
theorem outcome_renderAt_of_omits_crossing :
    let body := "[[ for:ys:a ]][[ if:z ]][[ endfor ]][[ z-z ]][[ endif ]][[ component:c ]]"
    let text := "[[ for:xs:x ]]<" ++ "[[ if:a.b ]]" ++ body ++ "[[ endif ]]" ++
      ">[[ x ]][[ endfor ]]"
    let context : Context := ⟨[("a", .mapping [("b", .bool false)]),
      ("xs", .sequence [.integer 0, .integer 1])]⟩
    Block.condition.Written "a.b" "[[ if:a.b ]]" "[[ endif ]]" ∧
    Block.condition.Omits context "a.b" ∧
    (Context.segments "a.b").head? = some "a" ∧
    (∀ source, source = "[[ for:xs:x ]]<" ∨ source = ">[[ x ]][[ endfor ]]" ∨
        (∃ path, Loader.ofSources [] path = .ok source) →
      ∀ d ∈ Directive.scan source, d.bound? ≠ some "a") ∧
    Block.loop.Balanced (Directive.scan body) ∧ Block.condition.Balanced (Directive.scan body) ∧
    (renderAt {} (.ofSources []) 0 text context).result = .ok "<>0<>1" ∧
    Outcome.unplaced (renderAt {} (.ofSources []) 0 text context).outcome =
      Outcome.unplaced (renderAt {} (.ofSources []) 0 ("[[ for:xs:x ]]<" ++ "[[ if:a.b ]]" ++
        "[[ endif ]]" ++ ">[[ x ]][[ endfor ]]") context).outcome ∧
    ∀ s, Machine.Reaches (componentAt {} (.ofSources []) 0) 0 (.ofText text)
        (Machine.start (.ofText text) context) s →
      s.cursor ≤ (Directive.scan "[[ for:xs:x ]]<").length ∨
        (Directive.scan "[[ for:xs:x ]]<").length + (Directive.scan body).length + 1 <
          s.cursor := by
  intro body text context
  have homits : Block.condition.Omits context "a.b" := ⟨.bool false, by cbv, rfl⟩
  have hfirst : (Context.segments "a.b").head? = some "a" := by cbv
  have hunbound : ∀ source, source = "[[ for:xs:x ]]<" ∨ source = ">[[ x ]][[ endfor ]]" ∨
      (∃ path, Loader.ofSources [] path = .ok source) →
        ∀ d ∈ Directive.scan source, d.bound? ≠ some "a" := by
    rintro source (rfl | rfl | ⟨path, hload⟩)
    · decide +kernel
    · decide +kernel
    · cases hload
  have hloop : Block.loop.Balanced (Directive.scan body) := by decide +kernel
  have hcondition : Block.condition.Balanced (Directive.scan body) := by decide +kernel
  have hresult : (renderAt {} (.ofSources []) 0 text context).result = .ok "<>0<>1" := by
    simp only [text, body, context]
    cbv
  exact ⟨.condition "a.b", homits, hfirst, hunbound, hloop, hcondition, hresult,
    outcome_renderAt_of_omits {} (.ofSources []) 0 (.condition "a.b") homits hfirst hunbound
      hloop hcondition⟩

end Render

end BracketTemplate
