/-
# How a template lies in its text

A template spells a text (`Template.text`), and each of its directives says
where in the text it stands.  A template is laid out when both agree
(`LaidFrom`): the start of a directive is the number of bytes in front of it and
its line is one more than the newlines there.

`Template.ofText` lays out the text it is given (`text_ofText`, `laid_ofText`)
and finds every directive in it (`mem_directives_ofText`), so its literal texts have
none (`clear_ofText`).  A template that is laid out is determined by its text and its
directives (`eq_of_laidFrom`), and by its text alone if its literal texts have no
directives (`eq_of_clear`): directives do not overlap, so the first one of the text
is where the first literal text ends.
-/

import BracketTemplate.Proofs.Spelling

namespace BracketTemplate

/-- The bytes that a list of characters takes in UTF-8. -/
def byteLength (cs : List Char) : Nat := (cs.map Char.utf8Size).sum

@[simp] theorem byteLength_nil : byteLength [] = 0 := rfl

@[simp] theorem byteLength_cons (c : Char) (cs : List Char) :
    byteLength (c :: cs) = c.utf8Size + byteLength cs := by
  simp [byteLength]

@[simp] theorem byteLength_append (cs ds : List Char) :
    byteLength (cs ++ ds) = byteLength cs + byteLength ds := by
  simp [byteLength]

/-- Of two beginnings of a text, those with equally many bytes are the same. -/
theorem eq_of_byteLength_eq {pre pre' post post' : List Char} (h : pre ++ post = pre' ++ post')
    (hlen : byteLength pre = byteLength pre') : pre = pre' := by
  induction pre generalizing pre' with
  | nil =>
    cases pre' with
    | nil => rfl
    | cons c cs =>
      have := c.utf8Size_pos
      rw [byteLength_nil, byteLength_cons] at hlen
      omega
  | cons c cs ih =>
    cases pre' with
    | nil =>
      have := c.utf8Size_pos
      rw [byteLength_nil, byteLength_cons] at hlen
      omega
    | cons c' cs' =>
      obtain ⟨rfl, htail⟩ := List.cons.inj h
      rw [byteLength_cons, byteLength_cons] at hlen
      rw [ih htail (by omega)]

namespace Directive

/-- A body character takes one byte and is no newline. -/
theorem utf8Size_of_isBodyChar {c : Char} (h : isBodyChar c = true) :
    c.utf8Size = 1 ∧ c ≠ '\n' := by
  have hval : c.val ≤ 0x7F ∧ c ≠ '\n' := by
    simp only [isBodyChar, Char.isAlphanum, Char.isAlpha, Char.isUpper, Char.isLower,
      Char.isDigit, Bool.or_eq_true, Bool.and_eq_true, decide_eq_true_eq, beq_iff_eq] at h
    constructor
    · rcases h with (((((⟨_, h⟩ | ⟨_, h⟩) | ⟨_, h⟩) | h) | h) | h) | h
      · exact UInt32.le_trans h (by decide)
      · exact UInt32.le_trans h (by decide)
      · exact UInt32.le_trans h (by decide)
      all_goals exact h ▸ by decide
    · rintro rfl
      exact absurd h (by decide)
  exact ⟨if_pos hval.1, hval.2⟩

/-- **A directive takes as many bytes as it has characters, and one line.** -/
theorem byteLength_spelling {body : List Char} (h : IsBody body) :
    byteLength (spelling body) = (spelling body).length ∧ (spelling body).count '\n' = 0 := by
  have hbody : byteLength body = body.length ∧ body.count '\n' = 0 := by
    obtain ⟨-, h⟩ := h
    induction body with
    | nil => exact ⟨rfl, rfl⟩
    | cons c cs ih =>
      obtain ⟨hone, hne⟩ := utf8Size_of_isBodyChar (h c List.mem_cons_self)
      obtain ⟨hlen, hcount⟩ := ih fun d hd => h d (List.mem_cons_of_mem _ hd)
      constructor
      · rw [byteLength_cons, List.length_cons, hone, hlen, Nat.add_comm]
      · rw [List.count_cons_of_ne hne, hcount]
  have hopen : byteLength opening = 3 ∧ opening.count '\n' = 0 := by decide
  have hclose : byteLength closing = 3 ∧ closing.count '\n' = 0 := by decide
  constructor
  · rw [length_spelling, spelling, byteLength_append, byteLength_append, hopen.1, hclose.1,
      hbody.1]
    omega
  · rw [spelling, List.count_append, List.count_append, hopen.2, hbody.2, hclose.2]

end Directive

open Directive

namespace Template

/-- The characters of pieces, directives included. -/
def piecesText (ps : List Piece) : List Char :=
  ps.flatMap fun p => spelling p.directive.body ++ p.literal

/-- The text of a template. -/
def text (t : Template) : List Char := t.lead ++ piecesText t.pieces

/-- Whether the directives of pieces stand where they say, when the pieces come
after a literal text that begins at an offset on a line. -/
def LaidFrom : (offset line : Nat) → (lead : List Char) → List Piece → Prop
  | _, _, _, [] => True
  | offset, line, lead, p :: rest =>
    IsBody p.directive.body ∧
    p.directive = ofBody p.directive.body (offset + byteLength lead) (line + lead.count '\n') ∧
    LaidFrom p.directive.stop p.directive.line p.literal rest

@[simp] theorem text_consChar (c : Char) (t : Template) : (t.consChar c).text = c :: t.text := rfl

@[simp] theorem text_consDirective (d : Directive) (t : Template) :
    (consDirective d t).text = spelling d.body ++ t.text := by
  simp [consDirective, text, piecesText]

/-- A character in front moves the rest of a template. -/
theorem laidFrom_consChar {offset line : Nat} {c : Char} {t : Template}
    (h : LaidFrom (offset + c.utf8Size) (if c = '\n' then line + 1 else line) t.lead t.pieces) :
    LaidFrom offset line (t.consChar c).lead (t.consChar c).pieces := by
  obtain ⟨lead, ps⟩ := t
  cases ps with
  | nil => trivial
  | cons p rest =>
    obtain ⟨hbody, hd, hrest⟩ := h
    refine ⟨hbody, hd.trans ?_, hrest⟩
    have hoffset : offset + c.utf8Size + byteLength lead = offset + byteLength (c :: lead) := by
      rw [byteLength_cons, Nat.add_assoc]
    have hline : (if c = '\n' then line + 1 else line) + lead.count '\n' =
        line + (c :: lead).count '\n' := by
      by_cases hc : c = '\n'
      · subst hc
        rw [if_pos rfl, List.count_cons_self]
        omega
      · rw [if_neg hc, List.count_cons_of_ne hc]
    simp only [consChar]
    rw [hoffset, hline]

/-- The template of a text spells what is not passed over. -/
theorem text_scanFrom (pass offset line : Nat) (cs : List Char) :
    (scanFrom pass offset line cs).text = cs.drop pass := by
  induction cs generalizing pass offset line with
  | nil => simp [scanFrom, text, piecesText]
  | cons c rest ih =>
    cases pass with
    | succ pass => exact ih ..
    | zero =>
      rw [scanFrom]
      split
      · rename_i body hb
        obtain ⟨-, post, hpost⟩ := body?_eq_some_iff.1 hb
        have hdrop : rest.drop (body.length + 5) = post := by
          have := congrArg (List.drop (body.length + 6)) hpost
          rwa [List.drop_succ_cons, ← length_spelling, List.drop_left] at this
        rw [text_consDirective, body_ofBody, ih, hdrop, ← hpost, List.drop_zero]
      · rw [text_consChar, ih, List.drop_zero, List.drop_zero]

/-- The template of a text is laid out in it. -/
theorem laidFrom_scanFrom (pass offset line : Nat) (cs : List Char) :
    LaidFrom (offset + byteLength (cs.take pass)) line (scanFrom pass offset line cs).lead
      (scanFrom pass offset line cs).pieces := by
  induction cs generalizing pass offset line with
  | nil => simp [scanFrom, LaidFrom]
  | cons c rest ih =>
    cases pass with
    | succ pass =>
      rw [List.take_succ_cons, byteLength_cons, ← Nat.add_assoc]
      exact ih ..
    | zero =>
      rw [List.take_zero, byteLength_nil, Nat.add_zero, scanFrom]
      split
      · rename_i body hb
        obtain ⟨hbody, post, hpost⟩ := body?_eq_some_iff.1 hb
        have htake : c :: rest.take (body.length + 5) = spelling body := by
          have := congrArg (List.take (body.length + 6)) hpost
          rwa [List.take_succ_cons, ← length_spelling, List.take_left] at this
        have hoffset : offset + c.utf8Size + byteLength (rest.take (body.length + 5)) =
            offset + (spelling body).length := by
          rw [Nat.add_assoc, ← byteLength_cons, htake, (byteLength_spelling hbody).1]
        have hrest := ih (body.length + 5) (offset + c.utf8Size) line
        rw [hoffset] at hrest
        exact ⟨by rwa [body_ofBody], by rw [body_ofBody]; rfl, hrest⟩
      · have hrest := ih 0 (offset + c.utf8Size) (if c = '\n' then line + 1 else line)
        rw [List.take_zero, byteLength_nil, Nat.add_zero] at hrest
        exact laidFrom_consChar hrest

/-- **No directive of a text is missed.**  Those that were found in front of it
have ended where it starts, so it is not passed over. -/
theorem mem_directives_scanFrom {body : List Char} (h : IsBody body) (post : List Char)
    (pass offset line : Nat) (pre : List Char) (hpass : pass ≤ pre.length) :
    ofBody body (offset + byteLength pre) (line + (pre.drop pass).count '\n') ∈
      (scanFrom pass offset line (pre ++ (spelling body ++ post))).directives := by
  induction pre generalizing pass offset line with
  | nil =>
    obtain rfl : pass = 0 := Nat.le_zero.1 hpass
    have hb : body? (spelling body ++ post) = some body := body?_eq_some_iff.2 ⟨h, post, rfl⟩
    obtain ⟨c, rest, hc⟩ : ∃ c rest, spelling body ++ post = c :: rest :=
      ⟨'[', _, rfl⟩
    rw [hc] at hb
    simp [hc, scanFrom, hb, directives, consDirective]
  | cons c pre ih =>
    rw [List.cons_append, byteLength_cons, ← Nat.add_assoc]
    cases pass with
    | succ pass => exact ih pass _ line (Nat.le_of_succ_le_succ hpass)
    | zero =>
      rw [scanFrom, List.drop_zero]
      split
      · rename_i found hb
        obtain ⟨hfound, post', hpost⟩ := body?_eq_some_iff.1 hb
        have hlen : (spelling found).length ≤ (c :: pre).length := by
          have heq : [] ++ (spelling found ++ post') = (c :: pre) ++ (spelling body ++ post) := by
            rw [List.nil_append, ← hpost, List.cons_append]
          simpa using spelling_disjoint hfound heq (Nat.succ_pos _)
        have htake : (c :: pre).take (found.length + 6) = spelling found := by
          have := congrArg (List.take (found.length + 6)) hpost
          rwa [← List.cons_append, List.take_append_of_le_length (by rwa [← length_spelling]),
            ← length_spelling, List.take_left, length_spelling] at this
        have hcount : (c :: pre).count '\n' = (pre.drop (found.length + 5)).count '\n' := by
          rw [← List.take_append_drop (found.length + 6) (c :: pre), List.count_append, htake,
            (byteLength_spelling hfound).2, Nat.zero_add, List.drop_succ_cons]
        rw [hcount]
        rw [length_spelling, List.length_cons] at hlen
        exact List.mem_cons_of_mem _ (ih _ _ line (by omega))
      · have hline : line + (c :: pre).count '\n' =
            (if c = '\n' then line + 1 else line) + pre.count '\n' := by
          by_cases hc : c = '\n'
          · subst hc
            rw [if_pos rfl, List.count_cons_self]
            omega
          · rw [if_neg hc, List.count_cons_of_ne hc]
        rw [hline]
        exact ih 0 _ _ (Nat.zero_le _)

@[simp] theorem piecesText_nil : piecesText [] = [] := rfl

@[simp] theorem piecesText_cons (p : Piece) (rest : List Piece) :
    piecesText (p :: rest) = spelling p.directive.body ++ (p.literal ++ piecesText rest) := by
  simp [piecesText]

/-- In a laid out template every directive stands where it says. -/
theorem exists_of_mem_laidFrom {offset line : Nat} {lead : List Char} {ps : List Piece}
    (h : LaidFrom offset line lead ps) {p : Piece} (hp : p ∈ ps) :
    ∃ pre post, lead ++ piecesText ps = pre ++ (spelling p.directive.body ++ post) ∧
      IsBody p.directive.body ∧
      p.directive = ofBody p.directive.body (offset + byteLength pre) (line + pre.count '\n') := by
  induction ps generalizing offset line lead with
  | nil => exact absurd hp List.not_mem_nil
  | cons q rest ih =>
    obtain ⟨hbody, hq, hrest⟩ := h
    rcases List.mem_cons.1 hp with rfl | hp
    · exact ⟨lead, p.literal ++ piecesText rest, by rw [piecesText_cons], hbody, hq⟩
    · obtain ⟨pre, post, htext, hpbody, hpd⟩ := ih hrest hp
      refine ⟨lead ++ (spelling q.directive.body ++ pre), post, ?_, hpbody, hpd.trans ?_⟩
      · rw [piecesText_cons, htext]
        simp only [List.append_assoc]
      · obtain ⟨hlen, hcount⟩ := byteLength_spelling hbody
        have hstop : q.directive.stop =
            offset + byteLength lead + (spelling q.directive.body).length :=
          congrArg Directive.stop hq
        have hline : q.directive.line = line + lead.count '\n' := congrArg Directive.line hq
        rw [hstop, hline, byteLength_append, byteLength_append, hlen, List.count_append,
          List.count_append, hcount]
        congr 1 <;> omega

/-- In a laid out template the directives come one after another. -/
theorem pairwise_of_laidFrom {offset line : Nat} {lead : List Char} {ps : List Piece}
    (h : LaidFrom offset line lead ps) :
    ps.Pairwise (fun p q => p.directive.start < q.directive.start ∧
      p.directive.stop ≤ q.directive.start) ∧
      ∀ p ∈ ps, offset + byteLength lead ≤ p.directive.start := by
  induction ps generalizing offset line lead with
  | nil => exact ⟨List.Pairwise.nil, fun p hp => absurd hp List.not_mem_nil⟩
  | cons q rest ih =>
    obtain ⟨-, hq, hrest⟩ := h
    obtain ⟨hpair, hstart⟩ := ih hrest
    have hqstart : q.directive.start = offset + byteLength lead := congrArg Directive.start hq
    have hqstop : q.directive.start < q.directive.stop := by
      rw [hq]
      simp only [ofBody, length_spelling]
      omega
    refine ⟨List.pairwise_cons.2 ⟨fun p hp => ?_, hpair⟩, fun p hp => ?_⟩
    · have := hstart p hp
      omega
    · rcases List.mem_cons.1 hp with rfl | hp
      · omega
      · have := hstart p hp
        omega

/-- **A layout is determined by the text and the directives.** -/
theorem eq_of_laidFrom {offset line : Nat} {lead lead' : List Char} {ps ps' : List Piece}
    (h : LaidFrom offset line lead ps) (h' : LaidFrom offset line lead' ps')
    (htext : lead ++ piecesText ps = lead' ++ piecesText ps')
    (hd : ps.map (·.directive) = ps'.map (·.directive)) : lead = lead' ∧ ps = ps' := by
  induction ps generalizing offset line lead lead' ps' with
  | nil =>
    obtain rfl : ps' = [] := by simpa using hd.symm
    exact ⟨by simpa [piecesText] using htext, rfl⟩
  | cons p rest ih =>
    cases ps' with
    | nil => simp at hd
    | cons p' rest' =>
      obtain ⟨hdp, hdrest⟩ :
          p.directive = p'.directive ∧ rest.map (·.directive) = rest'.map (·.directive) :=
        List.cons.inj hd
      obtain ⟨-, hp, hrest⟩ := h
      obtain ⟨-, hp', hrest'⟩ := h'
      have hlead : lead = lead' := by
        have hstart : offset + byteLength lead = offset + byteLength lead' := by
          have hs : p.directive.start = p'.directive.start := congrArg start hdp
          rwa [hp, hp'] at hs
        exact eq_of_byteLength_eq htext (by omega)
      subst hlead
      rw [piecesText_cons, piecesText_cons, hdp] at htext
      rw [hdp] at hrest
      obtain ⟨hliteral, rfl⟩ := ih hrest hrest'
        (List.append_cancel_left (List.append_cancel_left htext)) hdrest
      obtain ⟨d, l⟩ := p
      obtain ⟨d', l'⟩ := p'
      obtain rfl : d = d' := hdp
      obtain rfl : l = l' := hliteral
      exact ⟨rfl, rfl⟩

/-- The template of a text spells the text. -/
theorem text_ofText (text : String) : (ofText text).text = text.toList := by
  rw [ofText, text_scanFrom, List.drop_zero]

/-- The template of a text is laid out from its beginning. -/
theorem laid_ofText (text : String) :
    LaidFrom 0 1 (ofText text).lead (ofText text).pieces :=
  laidFrom_scanFrom 0 0 1 text.toList

/-- Every directive in a text is one of its template. -/
theorem mem_directives_ofText {text : String} {pre body post : List Char} (h : IsBody body)
    (htext : text.toList = pre ++ (spelling body ++ post)) :
    ofBody body (byteLength pre) (1 + pre.count '\n') ∈ (ofText text).directives := by
  have := mem_directives_scanFrom h post 0 0 1 pre (Nat.zero_le _)
  rwa [Nat.zero_add, List.drop_zero, ← htext] at this

/-- **A template that is laid out over a text and has its directives is the
template of the text.** -/
theorem eq_ofText {text : String} {t : Template} (h : LaidFrom 0 1 t.lead t.pieces)
    (htext : t.text = text.toList) (hd : t.directives = (ofText text).directives) :
    t = ofText text := by
  obtain ⟨hlead, hpieces⟩ := eq_of_laidFrom h (laid_ofText text)
    (htext.trans (text_ofText text).symm) hd
  obtain ⟨lead, ps⟩ := t
  obtain rfl : lead = _ := hlead
  obtain rfl : ps = _ := hpieces
  rfl

/-- Whether the literal texts of a template have no directive in them. -/
structure Clear (t : Template) : Prop where
  lead : Absent t.lead
  literal : ∀ p ∈ t.pieces, Absent p.literal

theorem clear_cons_iff {lead : List Char} {p : Piece} {rest : List Piece} :
    Clear ⟨lead, p :: rest⟩ ↔ Absent lead ∧ Clear ⟨p.literal, rest⟩ := by
  constructor
  · rintro ⟨hlead, hliteral⟩
    obtain ⟨hp, hrest⟩ := List.forall_mem_cons.1 hliteral
    exact ⟨hlead, hp, hrest⟩
  · rintro ⟨hlead, hp, hrest⟩
    exact ⟨hlead, List.forall_mem_cons.2 ⟨hp, hrest⟩⟩

/-- What is found in a text leaves no directive between. -/
theorem clear_scanFrom (pass offset line : Nat) (cs : List Char) :
    (scanFrom pass offset line cs).Clear := by
  induction cs generalizing pass offset line with
  | nil => exact ⟨absent_nil, fun p hp => absurd hp List.not_mem_nil⟩
  | cons c rest ih =>
    cases pass with
    | succ pass => exact ih ..
    | zero =>
      rw [scanFrom]
      split
      · exact clear_cons_iff.2 ⟨absent_nil, ih ..⟩
      · rename_i hnone
        have hrest := text_scanFrom 0 (offset + c.utf8Size)
          (if c = '\n' then line + 1 else line) rest
        obtain ⟨hlead, hliteral⟩ := ih 0 (offset + c.utf8Size) (if c = '\n' then line + 1 else line)
        refine ⟨fun pre body post hbody heq => ?_, hliteral⟩
        generalize scanFrom 0 (offset + c.utf8Size) (if c = '\n' then line + 1 else line) rest = t
          at hlead heq hrest
        rw [List.drop_zero] at hrest
        cases pre with
        | nil =>
          -- then the text would start with the directive
          have hstart : c :: rest = spelling body ++ (post ++ piecesText t.pieces) := by
            rw [← hrest, text, ← List.cons_append, show c :: t.lead = _ from heq,
              List.nil_append, List.append_assoc]
          rw [body?_eq_some_iff.2 ⟨hbody, _, hstart⟩] at hnone
          cases hnone
        | cons c' pre => exact hlead pre body post hbody (List.cons.inj heq).2

/-- **Between the directives of a text there are no others.** -/
theorem clear_ofText (text : String) : (ofText text).Clear := clear_scanFrom 0 0 1 text.toList

/-- A literal text without directives ends where the first directive of its text
starts, or before. -/
theorem length_le_of_absent {lead lead' : List Char} {p : Piece} {rest ps' : List Piece}
    (hbody : IsBody p.directive.body) (hlead' : Absent lead')
    (htext : lead ++ piecesText (p :: rest) = lead' ++ piecesText ps') :
    lead'.length ≤ lead.length := by
  by_contra hlt
  rw [piecesText_cons] at htext
  cases ps' with
  | nil =>
    rw [piecesText_nil, List.append_nil] at htext
    exact hlead' _ _ _ hbody htext.symm
  | cons p' rest' =>
    rw [piecesText_cons] at htext
    have hle := spelling_disjoint hbody htext (Nat.lt_of_not_le hlt)
    rw [← List.append_assoc] at htext
    obtain ⟨between, hbetween⟩ := List.prefix_of_prefix_length_le ⟨_, htext⟩
      (List.prefix_append _ _) hle
    rw [List.append_assoc] at hbetween
    exact hlead' _ _ _ hbody hbetween.symm

/-- **A layout without directives in its literal texts is determined by the text.** -/
theorem eq_of_clear {offset line : Nat} {lead lead' : List Char} {ps ps' : List Piece}
    (h : LaidFrom offset line lead ps) (h' : LaidFrom offset line lead' ps')
    (hclear : Clear ⟨lead, ps⟩) (hclear' : Clear ⟨lead', ps'⟩)
    (htext : lead ++ piecesText ps = lead' ++ piecesText ps') : lead = lead' ∧ ps = ps' := by
  induction ps generalizing offset line lead lead' ps' with
  | nil =>
    cases ps' with
    | nil => exact ⟨by simpa using htext, rfl⟩
    | cons p' rest' =>
      rw [piecesText_nil, piecesText_cons, List.append_nil] at htext
      exact absurd htext (hclear.lead _ _ _ h'.1)
  | cons p rest ih =>
    obtain ⟨hbody, hp, hrest⟩ := h
    cases ps' with
    | nil =>
      rw [piecesText_nil, piecesText_cons, List.append_nil] at htext
      exact absurd htext.symm (hclear'.lead _ _ _ hbody)
    | cons p' rest' =>
      obtain ⟨hbody', hp', hrest'⟩ := h'
      obtain ⟨hlead, htail⟩ := clear_cons_iff.1 hclear
      obtain ⟨hlead', htail'⟩ := clear_cons_iff.1 hclear'
      have hlen : lead.length = lead'.length :=
        Nat.le_antisymm (length_le_of_absent hbody' hlead htext.symm)
          (length_le_of_absent hbody hlead' htext)
      rw [piecesText_cons, piecesText_cons] at htext
      obtain ⟨rfl, hfirst⟩ := List.append_inj htext hlen
      have hsame := body_eq_of_spelling_eq hbody hbody' hfirst
      rw [hsame] at hfirst
      rw [hsame, ← hp'] at hp
      rw [hp] at hrest
      obtain ⟨hliteral, rfl⟩ := ih hrest hrest' htail htail' (List.append_cancel_left hfirst)
      obtain ⟨d, l⟩ := p
      obtain ⟨d', l'⟩ := p'
      obtain rfl : d = d' := hp
      obtain rfl : l = l' := hliteral
      exact ⟨rfl, rfl⟩

/-- **A template that is laid out over a text, without directives in its literal texts,
is the template of the text.** -/
theorem eq_ofText_of_clear {text : String} {t : Template} (h : LaidFrom 0 1 t.lead t.pieces)
    (hclear : t.Clear) (htext : t.text = text.toList) : t = ofText text := by
  obtain ⟨hlead, hpieces⟩ := eq_of_clear h (laid_ofText text) hclear (clear_ofText text)
    (htext.trans (text_ofText text).symm)
  obtain ⟨lead, ps⟩ := t
  obtain rfl : lead = _ := hlead
  obtain rfl : ps = _ := hpieces
  rfl

end Template

end BracketTemplate
