/-
# A component in place of its directive

A directive that includes a component, and the text of the component in its
place, come to the same.  Outside the component the two renders go on side by
side (`aroundReplay`): the blocks around it are closed at the same directives,
as the blocks of the component pair up and the search for an end sees through
them.  When the one render comes to the directive, the other goes through the
component with the loops of the caller open around it (`partReplay`), and takes
the steps that the component takes by itself.  So the other render may run out
of steps, and there is no other difference (`ends_inlined`).
-/

import BracketTemplate.Proofs.Parts

namespace BracketTemplate

namespace Template

/-- A directive with no text around it. -/
def single (d : Directive) : Template := ⟨[], [⟨d, []⟩]⟩

variable {P X Q : Template}

/-- What is printed at the seams of a middle template before its first directive. -/
theorem seam_append_seam {i : Nat} (hi : i ≤ P.pieces.length) :
    P.seam X i ++ (P.append X).seam Q i =
      if i = P.pieces.length then X.lead ++ X.seam Q 0 else [] := by
  unfold seam
  rw [length_append]
  by_cases h : i = P.pieces.length
  · subst h
    rw [if_pos rfl, if_pos rfl]
    exact congrArg _ (if_congr (by omega) rfl rfl)
  · rw [if_neg h, if_neg h, if_neg (by omega)]
    rfl

/-- The directives in front of a middle template. -/
theorem getElem?_front {i : Nat} {p : Piece} (h : P.pieces[i]? = some p) :
    ((P.append X).append Q).pieces[i]? =
      some ⟨p.directive, p.literal ++
        if i + 1 = P.pieces.length then X.lead ++ X.seam Q 0 else []⟩ := by
  obtain ⟨hi, -⟩ := List.getElem?_eq_some_iff.1 h
  rw [getElem?_append_left (getElem?_append_left h), List.append_assoc, seam_append_seam hi]

/-- The literal text in front of the first directive. -/
theorem lead_middle :
    ((P.append X).append Q).lead =
      P.lead ++ if 0 = P.pieces.length then X.lead ++ X.seam Q 0 else [] := by
  rw [lead_append, lead_append, List.append_assoc, seam_append_seam (Nat.zero_le _)]

/-- The directives behind it. -/
theorem getElem?_behind (i : Nat) :
    ((P.append X).append Q).pieces[P.pieces.length + X.pieces.length + i]? = Q.pieces[i]? := by
  rw [← length_append, getElem?_append_right]

/-- A directive between two templates. -/
theorem getElem?_single (P Q : Template) (d : Directive) :
    ((P.append (single d)).append Q).pieces[P.pieces.length]? = some ⟨d, Q.lead⟩ := by
  have h : (P.append (single d)).pieces[P.pieces.length]? = some ⟨d, []⟩ :=
    getElem?_append_right P (single d) 0
  have hlength : (P.append (single d)).pieces.length = P.pieces.length + 1 := length_append ..
  rw [getElem?_append_left h, ← hlength, seam_length]
  rfl

end Template

namespace Machine

variable {inclusion : Inclusion} {layer : Nat} {P M Q Q' : Template} {d : Directive}

/-- The index of a directive outside a component when the component is put in
place of its directive. -/
def placeAround (P M : Template) (i : Nat) : Nat :=
  if i ≤ P.pieces.length then i else i - 1 + M.pieces.length

theorem placeAround_of_le {i : Nat} (h : i ≤ P.pieces.length) : placeAround P M i = i := if_pos h

theorem placeAround_of_lt {i : Nat} (h : P.pieces.length < i) :
    placeAround P M i = i - 1 + M.pieces.length := if_neg (Nat.not_le_of_lt h)

/-- What is printed in addition when the component is come to. -/
def extraAround (P M Q' : Template) (i : Nat) : List Char :=
  if i = P.pieces.length then M.lead ++ M.seam Q' 0 else []

/-- A directive outside the component is found again. -/
theorem exists_getElem?_around (hlike : Template.Like RenderError.unplaced Q Q') {i : Nat}
    {p : Piece} (hp : ((P.append (.single d)).append Q).pieces[i]? = some p)
    (hi : i ≠ P.pieces.length) :
    ∃ p', ((P.append M).append Q').pieces[placeAround P M i]? = some p' ∧
      Directive.Like RenderError.unplaced p.directive p'.directive ∧
      p'.literal = p.literal ++ extraAround P M Q' (i + 1) := by
  unfold placeAround extraAround
  rcases Nat.lt_or_gt_of_ne hi with hlt | hgt
  · rw [if_pos (Nat.le_of_lt hlt)]
    have hq := List.getElem?_eq_getElem hlt
    rw [Template.getElem?_front hq] at hp
    obtain rfl := Option.some.inj hp
    refine ⟨_, Template.getElem?_front hq, ⟨rfl, rfl, .inl rfl⟩, ?_⟩
    have hnone : (Template.single d).lead ++ (Template.single d).seam Q 0 = [] := rfl
    rw [hnone, ite_self, List.append_nil]
  · obtain ⟨j, rfl⟩ := Nat.exists_eq_add_of_lt hgt
    rw [if_neg (by omega), if_neg (by omega), List.append_nil,
      show P.pieces.length + j + 1 - 1 + M.pieces.length =
        P.pieces.length + M.pieces.length + j by omega, Template.getElem?_behind]
    rw [Nat.add_right_comm] at hp
    exact hlike.exists_getElem? ((Template.getElem?_behind (X := .single d) j).symm.trans hp)

/-- **A block around the component, or beside it, is closed at the same directive**,
or not at all. -/
theorem close?_placeAround (hd : d.kind = .component) (hM : ∀ b : Block, b.Balanced M.directives)
    (hlike : Template.Like RenderError.unplaced Q Q') (b : Block) {i : Nat}
    (hi : i ≠ P.pieces.length) :
    b.close? ((P.append M).append Q').directives (placeAround P M i) =
      (b.close? ((P.append (.single d)).append Q).directives i).map (placeAround P M) := by
  have hlength := Template.length_directives
  have hkinds := hlike.kinds_eq
  have hsingle : ((P.append (.single d)).append Q).directives =
      P.directives ++ [d] ++ Q.directives := by
    rw [Template.directives_append, Template.directives_append]
    rfl
  rw [Template.directives_append, Template.directives_append]
  rcases Nat.lt_or_gt_of_ne hi with hlt | hgt
  · -- the search sees through the directive as it sees through the component
    have hplace : placeAround P M i = i := placeAround_of_le (Nat.le_of_lt hlt)
    have hsame : b.close? (P.directives ++ ([d] ++ Q'.directives)) i =
        b.close? ((P.append (.single d)).append Q).directives i := by
      rw [hsingle, List.append_assoc]
      exact b.close?_congr (by simp [hkinds]) i
    have hbalanced : b.Balanced [d] :=
      b.balanced_singleton (hd ▸ b.opener_ne_component.symm) (hd ▸ b.closer_ne_component.symm)
    rw [hplace, List.append_assoc, b.close?_replace hbalanced (hM b) (by rwa [hlength]), hsame,
      hlength, hlength]
    refine Option.map_congr fun k hk => ?_
    have hkne : k ≠ P.pieces.length := by
      rintro rfl
      obtain ⟨-, d', hd', hkind⟩ := b.exists_of_close? hk
      rw [Template.directives, List.getElem?_map, Template.getElem?_single] at hd'
      obtain rfl := Option.some.inj hd'
      have hother := b.closer_ne_component
      exact hother (hkind.symm.trans hd)
    unfold placeAround
    split <;> split <;> first | rfl | omega
  · obtain ⟨j, rfl⟩ := Nat.exists_eq_add_of_lt hgt
    have hplace : placeAround P M (P.pieces.length + j + 1) =
        (P.directives ++ M.directives).length + j := by
      rw [placeAround_of_lt (by omega), List.length_append, hlength, hlength]
      omega
    have hfront : P.pieces.length + j + 1 = (P.directives ++ [d]).length + j := by
      rw [List.length_append, hlength, List.length_singleton]
      omega
    rw [hplace, b.close?_append_right, hsingle, hfront, b.close?_append_right,
      b.close?_congr hkinds, Option.map_map]
    refine Option.map_congr fun k _ => ?_
    rw [Function.comp_apply, List.length_append, List.length_append, hlength, hlength,
      List.length_singleton, placeAround_of_lt (by omega)]
    omega

theorem close?_around (hd : d.kind = .component) (hM : ∀ b : Block, b.Balanced M.directives)
    (hlike : Template.Like RenderError.unplaced Q Q') {b : Block} {i k : Nat}
    (hi : i ≠ P.pieces.length)
    (hk : b.close? ((P.append (.single d)).append Q).directives i = some k) :
    b.close? ((P.append M).append Q').directives (placeAround P M i) =
      some (placeAround P M k) := by
  rw [close?_placeAround hd hM hlike b hi, hk, Option.map_some]

/-- The templates in front of a component and behind it are found again when the
component is put in place of its directive. -/
def aroundReplay (inclusion : Inclusion) (P : Template) (hd : d.kind = .component)
    (hM : ∀ b : Block, b.Balanced M.directives)
    (hlike : Template.Like RenderError.unplaced Q Q') :
    Replay inclusion inclusion ((P.append (.single d)).append Q) ((P.append M).append Q') where
  place := placeAround P M
  live := fun i => i ≠ P.pieces.length
  extra := extraAround P M Q'
  held := []
  before := ""
  view := RenderError.unplaced
  excused := fun _ => True
  piece := fun hp hi => exists_getElem?_around hlike hp hi
  place_succ := fun {i} _ hi => by
    unfold placeAround
    split <;> split <;> omega
  extra_eq := fun _ hi => if_neg hi
  live_of_kind := fun {i p} hp hkind hi => by
    rw [hi, Template.getElem?_single] at hp
    obtain rfl := Option.some.inj hp
    exact hkind hd
  place_inj := fun {i j} hi hj h => by
    unfold placeAround at h
    split at h <;> split at h <;> omega
  held_ne := fun _ hf => absurd hf List.not_mem_nil
  held_eq := .inl rfl
  close := fun hi hk => close?_around hd hM hlike hi hk
  close_none := fun _ _ => .inl fun _ _ => trivial
  included := fun _ _ _ => rfl

/-- Both renders begin alike. -/
theorem aroundReplay_start (hd : d.kind = .component) (hM : ∀ b : Block, b.Balanced M.directives)
    (hlike : Template.Like RenderError.unplaced Q Q') (context : Context) :
    (aroundReplay inclusion P hd hM hlike).Mirrors
      (start ((P.append (.single d)).append Q) context)
      (start ((P.append M).append Q') context) where
  cursor := by
    change 0 = placeAround P M 0
    rw [placeAround_of_le (Nat.zero_le _)]
  loops := ⟨[], rfl, .nil⟩
  output := by
    have hnone : (Template.single d).lead ++ (Template.single d).seam Q 0 = [] := rfl
    change String.ofList ((P.append M).append Q').lead =
      "" ++ (String.ofList ((P.append (.single d)).append Q).lead ++
        String.ofList (extraAround P M Q' 0))
    rw [Template.lead_middle, Template.lead_middle, hnone, ite_self, List.append_nil,
      String.empty_append, ← String.ofList_append]
    rfl
  context := rfl

theorem dispatch_component (hd : d.kind = .component) (directives : List Directive) (s : State) :
    dispatch inclusion layer directives s d = includeComponent inclusion s d := by
  unfold dispatch
  rw [hd]

/-- A component that is rendered, and what it printed and stored. -/
theorem exists_of_includeComponent {s : State} {flow : Flow} {name : String}
    (hname : d.requiredArgument 0 = .ok name)
    (hflow : (includeComponent inclusion s d).flow = .ok flow) :
    flow = .next ∧ ∃ text context, (inclusion name s.context).outcome = (.ok text, context) ∧
      (includeComponent inclusion s d).state =
        { s with output := s.output ++ text, context := context } := by
  unfold includeComponent at hflow ⊢
  rw [hname] at hflow ⊢
  dsimp only [takeOver] at hflow ⊢
  cases hresult : (inclusion name s.context).result with
  | error e =>
    rw [hresult] at hflow
    cases hflow
  | ok text =>
    rw [hresult] at hflow
    obtain rfl := Except.ok.inj hflow
    exact ⟨rfl, text, _, Prod.ext hresult rfl, rfl⟩

/-- The component in place of its directive, with the loops of the caller open
around it. -/
def componentReplay (inclusion : Inclusion) {m : Template}
    (hm : Template.Like RenderError.unplaced m M) (P Q' : Template) (held : List Frame)
    (before : String) (hheld : ∀ f ∈ held, f.origin < P.pieces.length) :
    Replay inclusion inclusion m ((P.append M).append Q') :=
  partReplay hm P Q' held before (fun _ => True) hheld (.inr fun _ _ => trivial)
    (.inr fun _ _ => trivial) fun _ _ _ => rfl

/-- **The component in place of its directive** prints and stores what the
directive does and leaves the loops of the caller as they are, unless the steps
run out. -/
theorem exists_reaches_component {m : Template} (hd : d.kind = .component)
    (hM : ∀ b : Block, b.Balanced M.directives)
    (hlike : Template.Like RenderError.unplaced Q Q')
    (hm : Template.Like RenderError.unplaced m M) {s s' : State}
    (hs : Sound ((P.append (.single d)).append Q) s)
    (h : (aroundReplay inclusion P hd hM hlike).Mirrors s s') (hcursor : s.cursor = P.pieces.length)
    {text : String} {context : Context}
    (hrun : (run inclusion layer m s.context).outcome = (.ok text, context)) :
    (∃ c, Ends inclusion layer ((P.append M).append Q') s'
        (.error (.stepLimitExceeded maxSteps), c)) ∨
      ∃ s₁', Reaches inclusion layer ((P.append M).append Q') s' s₁' ∧
        (aroundReplay inclusion P hd hM hlike).Mirrors
          (advance ((P.append (.single d)).append Q)
            { s with output := s.output ++ text, context := context } s.cursor) s₁' := by
  have hp : ((P.append (.single d)).append Q).pieces[s.cursor]? = some ⟨d, Q.lead⟩ := by
    rw [hcursor, Template.getElem?_single]
  have hentry : s.isReentry = false := Bool.eq_false_iff.2 fun hentry => by
    have hkind : d.kind = .loop := hs.kind_of_isReentry hentry hp
    rw [hd] at hkind
    cases hkind
  have hheld : ∀ f ∈ s'.loops, f.origin < P.pieces.length := by
    intro f' hf'
    obtain ⟨i, hi, horigin⟩ := h.exists_origin_eq hs rfl hentry hf'
    rw [hcursor] at hi
    exact lt_of_eq_of_lt (horigin.trans (placeAround_of_le (Nat.le_of_lt hi))) hi
  have hseam : M.seam Q' = m.seam Q' := by
    unfold Template.seam
    rw [hm.length_eq]
  have hstart : (componentReplay inclusion hm P Q' s'.loops s.output hheld).Mirrors
      (start m s.context) s' := by
    refine partReplay_start ?_ rfl ?_ h.context
    · rw [h.cursor, hcursor]
      exact placeAround_of_le (Nat.le_refl _)
    · have hout : s'.output = "" ++ (s.output ++ String.ofList (extraAround P M Q' s.cursor)) :=
        h.output
      rw [hout, hcursor, String.empty_append, extraAround, if_pos rfl, hm.lead, hseam]
  rcases Replay.reaches_of_ok _ (fun _ => trivial) hstart (sound_start m s.context)
    (Nat.zero_add _).symm (hrun ▸ ends_run m s.context) with
    ⟨-, c, hend⟩ | ⟨last', hreach, hlast, hloops, houtput, hcontext⟩
  · exact .inl ⟨c, hend⟩
  · refine .inr ⟨last', hreach, ?_, ?_, ?_, ?_⟩
    · have hlast : last'.cursor = P.pieces.length + m.pieces.length := hlast
      rw [hlast, advance_cursor, hcursor]
      change _ = placeAround P M (P.pieces.length + 1)
      rw [placeAround_of_lt (Nat.lt_succ_self _), Nat.succ_sub_one, hm.length_eq]
    · rw [show last'.loops = s'.loops from hloops]
      exact h.loops
    · have hout : last'.output =
          s.output ++ (text ++ String.ofList (m.seam Q' m.pieces.length)) := houtput
      have hextra : extraAround P M Q' (s.cursor + 1) = [] := if_neg (by omega)
      unfold advance
      rw [hp, hout, Template.seam_length, hlike.lead]
      change _ = "" ++ (s.output ++ text ++ String.ofList Q.lead ++
        String.ofList (extraAround P M Q' (s.cursor + 1)))
      rw [hextra, String.empty_append, String.ofList_nil, String.append_empty,
        String.append_assoc]
    · rw [hcontext, advance_context]

/-- **A render that succeeds does so with a component in place of its directive**,
unless the steps run out. -/
theorem ends_inlined {m : Template} (hd : d.kind = .component) {name : String}
    (hname : d.requiredArgument 0 = .ok name) (hM : ∀ b : Block, b.Balanced M.directives)
    (hlike : Template.Like RenderError.unplaced Q Q')
    (hm : Template.Like RenderError.unplaced m M)
    (hcomponent : ∀ c text c', (inclusion name c).outcome = (.ok text, c') →
      (run inclusion layer m c).outcome = (.ok text, c')) {s s' : State}
    (hs : Sound ((P.append (.single d)).append Q) s)
    (h : (aroundReplay inclusion P hd hM hlike).Mirrors s s') {text : String} {x : Context}
    (hend : Ends inclusion layer ((P.append (.single d)).append Q) s (.ok text, x)) :
    Ends inclusion layer ((P.append M).append Q') s' (.ok text, x) ∨
      ∃ c, Ends inclusion layer ((P.append M).append Q') s'
        (.error (.stepLimitExceeded maxSteps), c) := by
  generalize ho : ((.ok text, x) : Outcome) = o at hend ⊢
  induction hend generalizing s' with
  | @go s s₁ events o hgo _ ih =>
    obtain ⟨p, hp, -, hmove⟩ := move_of_turn hgo
    have hs₁ := hs.move hp hmove
    by_cases hcursor : s.cursor = P.pieces.length
    · obtain ⟨p, flow, hp, -, hflow, rfl⟩ := flow_of_go hgo
      rw [hcursor, Template.getElem?_single] at hp
      obtain rfl := Option.some.inj hp
      rw [dispatch_component hd] at hflow ih hs₁
      obtain ⟨rfl, text₁, c₁, hincluded, hstate⟩ := exists_of_includeComponent hname hflow
      rw [hstate] at ih hs₁
      rcases exists_reaches_component hd hM hlike hm hs h hcursor
        (hcomponent _ _ _ hincluded) with hlimit | ⟨s₁', hreach, h₁⟩
      · exact .inr hlimit
      · rcases ih hs₁ h₁ ho with hend | ⟨c, hend⟩
        · exact .inl (hreach.ends hend)
        · exact .inr ⟨c, hreach.ends hend⟩
    · by_cases hsteps : s'.steps ≤ maxSteps
      · obtain ⟨s₁', hlead, h₁, -⟩ :=
          (aroundReplay inclusion P hd hM hlike).leads h hs hcursor hsteps ⟨events, hgo⟩
        rcases ih hs₁ h₁ ho with hend | ⟨c, hend⟩
        · exact .inl (hlead.reaches.ends hend)
        · exact .inr ⟨c, hlead.reaches.ends hend⟩
      · obtain ⟨p', hp', -⟩ := (aroundReplay inclusion P hd hM hlike).piece hp hcursor
        rw [← h.cursor] at hp'
        obtain ⟨hlt, -⟩ := List.getElem?_eq_some_iff.1 hp'
        exact .inr ⟨_, ends_of_maxSteps_lt hlt (Nat.lt_of_not_le hsteps)⟩
  | @halt s _ hhalt =>
    rcases outcome_of_halt hhalt with ⟨hp, hfinish⟩ | ⟨p, -, ⟨-, hlimit⟩ | ⟨-, e, -, herror⟩⟩
    · rw [hfinish] at ho ⊢
      have hcursor : s.cursor = P.pieces.length + 1 + Q.pieces.length := by
        have hlength := Nat.le_antisymm hs.cursor_le (List.getElem?_eq_none_iff.1 hp)
        rwa [Template.length_append, Template.length_append] at hlength
      have hextra : extraAround P M Q' s.cursor = [] := if_neg (by omega)
      obtain ⟨hagree, hcontext⟩ := h.finish rfl hextra
      have hsame : (finish s').outcome = (finish s).outcome := by
        refine Prod.ext ?_ hcontext
        change (finish s').result = (finish s).result
        rw [← show Except.ok text = (finish s).result from congrArg Prod.fst ho] at hagree ⊢
        generalize (finish s').result = x' at hagree ⊢
        cases hagree with
        | ok htext => exact congrArg Except.ok (htext.trans String.empty_append)
      have hcursor' : s'.cursor = placeAround P M s.cursor := h.cursor
      rw [← hsame]
      refine .inl (ends_finish ?_)
      rw [hcursor', placeAround_of_lt (by omega), Template.length_append, Template.length_append,
        hlike.length_eq]
      omega
    · rw [hlimit] at ho
      cases ho
    · rw [herror] at ho
      cases ho

end Machine

namespace Directive

/-- Whether a text may be an argument of a directive. -/
def IsArgument (text : String) : Prop :=
  text ≠ "" ∧ ∀ c ∈ text.toList, isBodyChar c = true ∧ c ≠ ':'

/-- The directive that includes a component, as it is written. -/
def including (name : String) : String := "[[ component:" ++ name ++ " ]]"

/-- The body of that directive. -/
def includingBody (name : String) : List Char :=
  ['c', 'o', 'm', 'p', 'o', 'n', 'e', 'n', 't'] ++ ':' :: name.toList

theorem including_eq_spelling (name : String) :
    including name = String.ofList (spelling (includingBody name)) := by
  rw [← String.toList_inj, String.toList_ofList, including, String.toList_append,
    String.toList_append]
  simp [spelling, opening, closing, includingBody]

theorem isBody_includingBody {name : String} (h : IsArgument name) :
    IsBody (includingBody name) := by
  refine ⟨List.cons_ne_nil _ _, fun c hc => ?_⟩
  rcases List.mem_append.1 hc with hc | hc
  · have hall : ['c', 'o', 'm', 'p', 'o', 'n', 'e', 'n', 't'].all isBodyChar = true := by decide
    exact List.all_eq_true.1 hall c hc
  · rcases List.mem_cons.1 hc with rfl | hc
    · decide
    · exact (h.2 c hc).1

/-- It includes the component. -/
theorem ofBody_includingBody {name : String} (h : IsArgument name) (start line : Nat) :
    (ofBody (includingBody name) start line).kind = .component ∧
      (ofBody (includingBody name) start line).requiredArgument 0 = .ok name := by
  have hsplit : (includingBody name).splitOn ':' =
      [['c', 'o', 'm', 'p', 'o', 'n', 'e', 'n', 't'], name.toList] := by
    rw [includingBody, List.splitOn_append_cons_self_of_not_mem (by decide),
      List.splitOn_eq_singleton fun hc => (h.2 _ hc).2 rfl]
  have hkeyword : String.ofList ['c', 'o', 'm', 'p', 'o', 'n', 'e', 'n', 't'] = "component" := rfl
  have hbody : ofBody (includingBody name) start line =
      ⟨"component", [name], start, start + (spelling (includingBody name)).length, line⟩ := by
    unfold ofBody
    rw [hsplit, List.map_cons, List.map_cons, String.ofList_toList, hkeyword]
    rfl
  rw [hbody]
  refine ⟨rfl, ?_⟩
  have hne : (name != "") = true := by simpa using h.1
  have hargument : (some name).filter (· != "") = some name := Option.filter_some_pos hne
  simp only [requiredArgument, argument?, List.getElem?_cons_zero, hargument]

end Directive

namespace Template

theorem below_spelling {body : List Char} (h : Directive.IsBody body) (a : String) :
    below a (String.ofList (Directive.spelling body)) =
      single (.ofBody body (0 + a.utf8ByteSize) (1 + a.toList.count '\n')) := by
  rw [below, ofText_spelling h, ← Directive.ofBody_shift]
  rfl

theorem below_including {name : String} (h : Directive.IsArgument name) (a : String) :
    ∃ d : Directive, below a (Directive.including name) = single d ∧ d.kind = .component ∧
      d.requiredArgument 0 = .ok name := by
  obtain ⟨hkind, hname⟩ := Directive.ofBody_includingBody h (0 + a.utf8ByteSize)
    (1 + a.toList.count '\n')
  refine ⟨_, ?_, hkind, hname⟩
  rw [Directive.including_eq_spelling, below_spelling (Directive.isBody_includingBody h)]

end Template

namespace Render

open Machine (maxSteps)

/-- **A component may be put in place of its directive**, if its loops and its
conditions pair up and no directive straddles its ends: where the text with the
directive succeeds, the text with the component prints the same and leaves the
same context, unless it takes too many steps. -/
theorem outcome_renderAt_inlined (settings : Settings) (loader : Loader) (layer : Nat)
    {name component : String} (hname : Directive.IsArgument name)
    (hload : loader (settings.componentPath name) = .ok component)
    (hloop : Block.loop.Balanced (Directive.scan component))
    (hcondition : Block.condition.Balanced (Directive.scan component)) {pre post : String}
    (hseam : Directive.scan (pre ++ component ++ post) =
      Directive.scan pre ++
        (Directive.scan component).map (·.shift pre.utf8ByteSize (pre.toList.count '\n')) ++
        (Directive.scan post).map (·.shift (pre ++ component).utf8ByteSize
          ((pre ++ component).toList.count '\n')))
    {context x : Context} {o : String}
    (h : (renderAt settings loader layer (pre ++ Directive.including name ++ post)
      context).outcome = (.ok o, x)) :
    (renderAt settings loader layer (pre ++ component ++ post) context).outcome = (.ok o, x) ∨
      ∃ c, (renderAt settings loader layer (pre ++ component ++ post) context).outcome =
        (.error (.stepLimitExceeded maxSteps), c) := by
  obtain ⟨d, hsingle, hkind, hargument⟩ := Template.below_including hname pre
  have htext : Template.ofText (pre ++ Directive.including name ++ post) =
      ((Template.ofText pre).append (.single d)).append
        (.below (pre ++ Directive.including name) post) := by
    rw [← hsingle, Directive.including_eq_spelling,
      Template.ofText_around (Directive.isBody_includingBody hname)]
  have hM : ∀ b : Block, b.Balanced (Template.below pre component).directives := by
    intro b
    rw [Template.below, Template.directives_shift]
    refine b.balanced_shift ?_ _ _
    cases b with
    | loop => exact hloop
    | condition => exact hcondition
  rw [renderAt_eq_run, htext] at h
  rw [renderAt_eq_run, Template.ofText_append_append hseam]
  have hlike := Template.like_below_below (pre ++ Directive.including name) (pre ++ component) post
  -- the component succeeds one layer deeper, so it does at the layer of the text
  have hcomponent : ∀ c text c',
      (componentAt settings loader layer name c).outcome = (.ok text, c') →
      (Machine.run (componentAt settings loader layer) layer (.ofText component) c).outcome =
        (.ok text, c') := by
    intro c text c' hc
    have hlayer : layer < maxLayer := by
      by_contra hlayer
      rw [outcome_componentAt_of_le settings loader (Nat.le_of_not_lt hlayer)] at hc
      cases hc
    rw [outcome_componentAt settings loader hlayer hload] at hc
    rw [← renderAt_eq_run, outcome_renderAt_of_le settings loader (Nat.le_succ layer), hc]
    intro e he
    rw [show (renderAt settings loader (layer + 1) component c).result = .ok text from
      congrArg Prod.fst hc] at he
    cases he
  have hend := Machine.ends_inlined hkind hargument hM hlike (Template.like_below pre component)
    hcomponent (Machine.sound_start _ context) (Machine.aroundReplay_start hkind hM hlike context)
    (h ▸ Machine.ends_run _ context)
  rcases hend with hok | ⟨c, hlimit⟩
  · exact .inl (Machine.run_outcome_of_ends hok)
  · exact .inr ⟨c, Machine.run_outcome_of_ends hlimit⟩

/-- A component with a block of its own, in a loop of the text around it. -/
theorem outcome_renderAt_inlined_loop :
    Directive.IsArgument "c" ∧
      Loader.ofSources [("components/c.html", "[[ if:x ]][[ x ]][[ endif ]]")]
        (Settings.componentPath {} "c") = .ok "[[ if:x ]][[ x ]][[ endif ]]" ∧
      Block.loop.Balanced (Directive.scan "[[ if:x ]][[ x ]][[ endif ]]") ∧
      Block.condition.Balanced (Directive.scan "[[ if:x ]][[ x ]][[ endif ]]") ∧
      (renderAt {} (.ofSources [("components/c.html", "[[ if:x ]][[ x ]][[ endif ]]")]) 0
        ("[[ for:xs:x ]]" ++ Directive.including "c" ++ "[[ endfor ]]")
        ⟨[("xs", .sequence [.integer 0, .integer 1])]⟩).outcome =
          (.ok "1", ⟨[("x", .integer 1), ("xs", .sequence [.integer 0, .integer 1])]⟩) ∧
      ((renderAt {} (.ofSources [("components/c.html", "[[ if:x ]][[ x ]][[ endif ]]")]) 0
        ("[[ for:xs:x ]]" ++ "[[ if:x ]][[ x ]][[ endif ]]" ++ "[[ endfor ]]")
        ⟨[("xs", .sequence [.integer 0, .integer 1])]⟩).outcome =
          (.ok "1", ⟨[("x", .integer 1), ("xs", .sequence [.integer 0, .integer 1])]⟩) ∨
        ∃ c, (renderAt {} (.ofSources [("components/c.html", "[[ if:x ]][[ x ]][[ endif ]]")]) 0
          ("[[ for:xs:x ]]" ++ "[[ if:x ]][[ x ]][[ endif ]]" ++ "[[ endfor ]]")
          ⟨[("xs", .sequence [.integer 0, .integer 1])]⟩).outcome =
            (.error (.stepLimitExceeded maxSteps), c)) := by
  have hname : Directive.IsArgument "c" := by
    refine ⟨by decide, fun c hc => ?_⟩
    obtain rfl : c = 'c' := by simpa using hc
    decide
  have hload : Loader.ofSources [("components/c.html", "[[ if:x ]][[ x ]][[ endif ]]")]
      (Settings.componentPath {} "c") = .ok "[[ if:x ]][[ x ]][[ endif ]]" := by cbv
  have hloop : Block.loop.Balanced (Directive.scan "[[ if:x ]][[ x ]][[ endif ]]") := by
    decide +kernel
  have hcondition : Block.condition.Balanced (Directive.scan "[[ if:x ]][[ x ]][[ endif ]]") := by
    decide +kernel
  have hseam : Directive.scan ("[[ for:xs:x ]]" ++ "[[ if:x ]][[ x ]][[ endif ]]" ++
        "[[ endfor ]]") =
      Directive.scan "[[ for:xs:x ]]" ++
        (Directive.scan "[[ if:x ]][[ x ]][[ endif ]]").map
          (·.shift "[[ for:xs:x ]]".utf8ByteSize ("[[ for:xs:x ]]".toList.count '\n')) ++
        (Directive.scan "[[ endfor ]]").map
          (·.shift ("[[ for:xs:x ]]" ++ "[[ if:x ]][[ x ]][[ endif ]]").utf8ByteSize
            (("[[ for:xs:x ]]" ++ "[[ if:x ]][[ x ]][[ endif ]]").toList.count '\n')) := by
    decide +kernel
  have hrun : (renderAt {} (.ofSources [("components/c.html", "[[ if:x ]][[ x ]][[ endif ]]")]) 0
      ("[[ for:xs:x ]]" ++ Directive.including "c" ++ "[[ endfor ]]")
      ⟨[("xs", .sequence [.integer 0, .integer 1])]⟩).outcome =
        (.ok "1", ⟨[("x", .integer 1), ("xs", .sequence [.integer 0, .integer 1])]⟩) := by cbv
  exact ⟨hname, hload, hloop, hcondition, hrun,
    outcome_renderAt_inlined {} _ 0 hname hload hloop hcondition hseam hrun⟩

end Render

end BracketTemplate
