/-
# Texts put together

The template of `a` and that of `b`, moved down by what `a` takes up, are joined
(`Template.append`): the last literal text of the one and the first of the other
become one.  The result is the template of `a ++ b`, unless something becomes a
directive where the texts meet (`Directive.Seamless`, `ofText_append`).

A directive is no part of another one, so nothing new becomes a directive where
a text meets a directive: one may be put between any two texts (`ofText_around`).
-/

import BracketTemplate.Proofs.Scanning

namespace BracketTemplate

open Directive

namespace Template

/-- The pieces after a literal text, followed by another template. -/
def join : (lead : List Char) → List Piece → Template → Template
  | lead, [], u => ⟨lead ++ u.lead, u.pieces⟩
  | lead, p :: rest, u =>
    let joined := join p.literal rest u
    ⟨lead, ⟨p.directive, joined.lead⟩ :: joined.pieces⟩

/-- One template followed by another. -/
def append (t u : Template) : Template := join t.lead t.pieces u

/-- The template further down in a longer text. -/
def shift (t : Template) (bytes newlines : Nat) : Template :=
  ⟨t.lead, t.pieces.map fun p => ⟨p.directive.shift bytes newlines, p.literal⟩⟩

@[simp] theorem length_shift (t : Template) (bytes newlines : Nat) :
    (t.shift bytes newlines).pieces.length = t.pieces.length := List.length_map _

@[simp] theorem directives_shift (t : Template) (bytes newlines : Nat) :
    (t.shift bytes newlines).directives = t.directives.map (·.shift bytes newlines) := by
  simp [shift, directives]

@[simp] theorem text_shift (t : Template) (bytes newlines : Nat) :
    (t.shift bytes newlines).text = t.text := by
  simp [shift, text, piecesText, List.flatMap_map]

@[simp] theorem directives_append (t u : Template) :
    (t.append u).directives = t.directives ++ u.directives := by
  obtain ⟨lead, ps⟩ := t
  unfold append
  induction ps generalizing lead with
  | nil => rfl
  | cons p rest ih => exact congrArg (List.cons p.directive) (ih p.literal)

@[simp] theorem text_append (t u : Template) : (t.append u).text = t.text ++ u.text := by
  obtain ⟨lead, ps⟩ := t
  unfold append
  induction ps generalizing lead with
  | nil => simp [join, text, piecesText]
  | cons p rest ih =>
    have hrest : (join p.literal rest u).lead ++ piecesText (join p.literal rest u).pieces =
        p.literal ++ piecesText rest ++ u.text := ih p.literal
    simp only [join, text, piecesText_cons]
    rw [hrest]
    simp only [text, List.append_assoc]

@[simp] theorem length_append (t u : Template) :
    (t.append u).pieces.length = t.pieces.length + u.pieces.length := by
  have h := congrArg List.length (directives_append t u)
  simpa [directives] using h

theorem append_nil (t : Template) : t.append ⟨[], []⟩ = t := by
  obtain ⟨lead, ps⟩ := t
  unfold append
  induction ps generalizing lead with
  | nil => exact congrArg (Template.mk · []) (List.append_nil lead)
  | cons p rest ih =>
    have hrest : join p.literal rest ⟨[], []⟩ = ⟨p.literal, rest⟩ := ih p.literal
    simp only [join, hrest]

/-- It does not matter which templates are put together first. -/
theorem append_assoc (t u v : Template) : (t.append u).append v = t.append (u.append v) := by
  obtain ⟨lead, ps⟩ := t
  unfold append
  induction ps generalizing lead with
  | nil =>
    obtain ⟨lead', us⟩ := u
    cases us with
    | nil => exact congrArg (Template.mk · v.pieces) (List.append_assoc lead lead' v.lead)
    | cons q rest => rfl
  | cons p rest ih => simp only [join, ih]

theorem shift_append (t u : Template) (bytes newlines : Nat) :
    (t.append u).shift bytes newlines =
      (t.shift bytes newlines).append (u.shift bytes newlines) := by
  obtain ⟨lead, ps⟩ := t
  unfold append shift
  induction ps generalizing lead with
  | nil => rfl
  | cons p rest ih =>
    have hrest := Template.mk.inj (ih p.literal)
    simp only [join, List.map_cons]
    rw [← hrest.1, ← hrest.2]

theorem shift_shift (t : Template) (bytes newlines bytes' newlines' : Nat) :
    (t.shift bytes newlines).shift bytes' newlines' =
      t.shift (bytes' + bytes) (newlines' + newlines) := by
  unfold shift
  simp only [List.map_map, Template.mk.injEq, true_and]
  refine List.map_congr_left fun p _ => ?_
  simp only [Function.comp_apply, Directive.shift, Piece.mk.injEq, Directive.mk.injEq, true_and,
    and_true]
  omega

/-- The literal text that a template leads in with, where it follows another. -/
def seam (t u : Template) (i : Nat) : List Char := if i = t.pieces.length then u.lead else []

@[simp] theorem seam_length (t u : Template) : t.seam u t.pieces.length = u.lead := if_pos rfl

theorem seam_of_lt {t u : Template} {i : Nat} (h : i < t.pieces.length) : t.seam u i = [] :=
  if_neg (Nat.ne_of_lt h)

theorem lead_append (t u : Template) : (t.append u).lead = t.lead ++ t.seam u 0 := by
  obtain ⟨lead, ps⟩ := t
  cases ps with
  | nil => rfl
  | cons p rest => exact (List.append_nil lead).symm

/-- A directive of the first template has the seam behind it if it is the last. -/
theorem getElem?_append_left {t u : Template} {i : Nat} {p : Piece} (h : t.pieces[i]? = some p) :
    (t.append u).pieces[i]? = some ⟨p.directive, p.literal ++ t.seam u (i + 1)⟩ := by
  obtain ⟨lead, ps⟩ := t
  induction ps generalizing lead i with
  | nil => cases h
  | cons q rest ih =>
    cases i with
    | zero =>
      obtain rfl := Option.some.inj h
      have hlead := lead_append ⟨q.literal, rest⟩ u
      have hseam : Template.seam ⟨q.literal, rest⟩ u 0 = Template.seam ⟨lead, q :: rest⟩ u 1 :=
        if_congr Nat.succ_inj.symm rfl rfl
      rw [hseam] at hlead
      exact congrArg (fun l => some (Piece.mk q.directive l)) hlead
    | succ i =>
      have hseam : Template.seam ⟨q.literal, rest⟩ u (i + 1) =
          Template.seam ⟨lead, q :: rest⟩ u (i + 1 + 1) :=
        if_congr Nat.succ_inj.symm rfl rfl
      rw [← hseam]
      exact ih q.literal h

/-- The directives of the second template are behind those of the first. -/
theorem getElem?_append_right (t u : Template) (i : Nat) :
    (t.append u).pieces[t.pieces.length + i]? = u.pieces[i]? := by
  obtain ⟨lead, ps⟩ := t
  induction ps generalizing lead with
  | nil => rw [List.length_nil, Nat.zero_add]; rfl
  | cons q rest ih =>
    rw [List.length_cons, Nat.add_right_comm]
    exact ih q.literal

/-- A literal text in front moves the rest of a template. -/
theorem laidFrom_append {offset line : Nat} {front lead : List Char} {ps : List Piece}
    (h : LaidFrom (offset + byteLength front) (line + front.count '\n') lead ps) :
    LaidFrom offset line (front ++ lead) ps := by
  cases ps with
  | nil => trivial
  | cons p rest =>
    obtain ⟨hbody, hd, hrest⟩ := h
    rw [Nat.add_assoc, Nat.add_assoc, ← byteLength_append, ← List.count_append] at hd
    exact ⟨hbody, hd, hrest⟩

/-- Templates that are laid out one behind the other are laid out together. -/
theorem laidFrom_join {offset line : Nat} {lead : List Char} {ps : List Piece} {u : Template}
    (h : LaidFrom offset line lead ps)
    (hu : LaidFrom (offset + byteLength (lead ++ piecesText ps))
      (line + (lead ++ piecesText ps).count '\n') u.lead u.pieces) :
    LaidFrom offset line (join lead ps u).lead (join lead ps u).pieces := by
  induction ps generalizing offset line lead with
  | nil =>
    rw [show piecesText [] = [] from rfl, List.append_nil] at hu
    exact laidFrom_append hu
  | cons p rest ih =>
    obtain ⟨hbody, hd, hrest⟩ := h
    refine ⟨hbody, hd, ih hrest ?_⟩
    obtain ⟨hlen, hcount⟩ := byteLength_spelling hbody
    have hstop : p.directive.stop = offset + byteLength lead +
        (spelling p.directive.body).length := congrArg Directive.stop hd
    have hline : p.directive.line = line + lead.count '\n' := congrArg Directive.line hd
    rw [piecesText_cons] at hu
    simp only [byteLength_append, List.count_append, hlen, hcount] at hu ⊢
    rw [hstop, hline]
    simp only [Nat.add_assoc, Nat.zero_add] at hu ⊢
    exact hu

/-- A template that is laid out stays so when it is moved down. -/
theorem laidFrom_shift {offset line : Nat} {lead : List Char} {ps : List Piece}
    (h : LaidFrom offset line lead ps) (bytes newlines : Nat) :
    LaidFrom (offset + bytes) (line + newlines) lead
      (ps.map fun p => ⟨p.directive.shift bytes newlines, p.literal⟩) := by
  induction ps generalizing offset line lead with
  | nil => trivial
  | cons p rest ih =>
    obtain ⟨hbody, hd, hrest⟩ := h
    refine ⟨hbody, ?_, ih hrest⟩
    rw [Nat.add_right_comm, Nat.add_right_comm line, ← ofBody_shift]
    exact congrArg (fun d : Directive => d.shift bytes newlines) hd

/-- Two templates, laid out one behind the other. -/
theorem laid_append {t u : Template} {front : List Char} (h : LaidFrom 0 1 t.lead t.pieces)
    (htext : t.text = front) (hu : LaidFrom 0 1 u.lead u.pieces) :
    LaidFrom 0 1 (t.append (u.shift (byteLength front) (front.count '\n'))).lead
      (t.append (u.shift (byteLength front) (front.count '\n'))).pieces := by
  subst htext
  exact laidFrom_join h (laidFrom_shift hu _ _)

end Template

/-- Whether no directive straddles the place where two texts meet. -/
def Directive.Seamless (a b : String) : Prop :=
  scan (a ++ b) = scan a ++ (scan b).map (·.shift a.utf8ByteSize (a.toList.count '\n'))

/-- The bytes of a text are those of its characters. -/
theorem utf8ByteSize_eq_byteLength (text : String) :
    text.utf8ByteSize = byteLength text.toList := by
  rw [← size_utf8Encode, String.utf8Encode_toList]
  rfl

namespace Template

/-- The template of a text, moved down by what another text takes up. -/
def below (a b : String) : Template := (ofText b).shift a.utf8ByteSize (a.toList.count '\n')

/-- A template that ends where a text does, and the template of the text behind
it, are laid out together. -/
theorem laid_append_below {t : Template} {a : String} (h : LaidFrom 0 1 t.lead t.pieces)
    (htext : t.text = a.toList) (b : String) :
    LaidFrom 0 1 (t.append (below a b)).lead (t.append (below a b)).pieces := by
  unfold below
  rw [utf8ByteSize_eq_byteLength]
  exact laid_append h htext (laid_ofText b)

theorem text_below (a b : String) : (below a b).text = b.toList := by
  rw [below, text_shift, text_ofText]

/-- A template below a text that is itself below another. -/
theorem shift_below (a b c : String) :
    (below b c).shift a.utf8ByteSize (a.toList.count '\n') = below (a ++ b) c := by
  rw [below, shift_shift, below, String.utf8ByteSize_append, String.toList_append,
    List.count_append]

/-- **Texts that meet without a seam are templates put together.** -/
theorem ofText_append {a b : String} (h : Directive.Seamless a b) :
    ofText (a ++ b) = (ofText a).append (below a b) := by
  refine (eq_ofText (laid_append_below (laid_ofText a) (text_ofText a) b) ?_ ?_).symm
  · rw [text_append, text_ofText, text_below, String.toList_append]
  · rw [directives_append, below, directives_shift]
    exact h.symm

/-- The same of three texts. -/
theorem ofText_append_append {a b c : String}
    (h : scan (a ++ b ++ c) =
      scan a ++ (scan b).map (·.shift a.utf8ByteSize (a.toList.count '\n')) ++
        (scan c).map (·.shift (a ++ b).utf8ByteSize ((a ++ b).toList.count '\n'))) :
    ofText (a ++ b ++ c) = ((ofText a).append (below a b)).append (below (a ++ b) c) := by
  have htext : ((ofText a).append (below a b)).text = (a ++ b).toList := by
    rw [text_append, text_ofText, text_below, String.toList_append]
  refine (eq_ofText (laid_append_below (laid_append_below (laid_ofText a) (text_ofText a) b)
    htext c) ?_ ?_).symm
  · rw [text_append, htext, text_below, ← String.toList_append]
  · rw [directives_append, directives_append, below, below, directives_shift, directives_shift]
    exact h.symm

/-- A template that is moved down has the same literal texts. -/
theorem Clear.shift {t : Template} (h : t.Clear) (bytes newlines : Nat) :
    (t.shift bytes newlines).Clear where
  lead := h.lead
  literal := fun p hp => by
    obtain ⟨q, hq, rfl⟩ := List.mem_map.1 hp
    exact h.literal q hq

theorem clear_below (a b : String) : (below a b).Clear := (clear_ofText b).shift _ _

/-- No directive arises where a template starts with one. -/
theorem Clear.append {t u : Template} (ht : t.Clear) (hu : u.Clear) (hlead : u.lead = []) :
    (t.append u).Clear := by
  obtain ⟨lead, ps⟩ := t
  unfold Template.append
  induction ps generalizing lead with
  | nil => exact ⟨by rw [join, hlead, List.append_nil]; exact ht.lead, hu.literal⟩
  | cons p rest ih =>
    obtain ⟨habsent, htail⟩ := clear_cons_iff.1 ht
    exact clear_cons_iff.2 ⟨habsent, ih p.literal htail⟩

/-- A directive by itself is a template of one piece. -/
theorem ofText_spelling {body : List Char} (h : IsBody body) :
    ofText (String.ofList (spelling body)) = ⟨[], [⟨ofBody body 0 1, []⟩]⟩ := by
  have hlaid : LaidFrom 0 1 [] [⟨ofBody body 0 1, []⟩] :=
    ⟨by rwa [body_ofBody], by rw [body_ofBody]; rfl, trivial⟩
  have hclear : Clear ⟨[], [⟨ofBody body 0 1, []⟩]⟩ :=
    clear_cons_iff.2 ⟨absent_nil, absent_nil, fun p hp => absurd hp List.not_mem_nil⟩
  exact (eq_ofText_of_clear hlaid hclear (by simp [text])).symm

/-- **A directive between two texts is one more directive, and no more.** -/
theorem ofText_around {body : List Char} (h : IsBody body) (a b : String) :
    ofText (a ++ String.ofList (spelling body) ++ b) =
      ((ofText a).append (below a (String.ofList (spelling body)))).append
        (below (a ++ String.ofList (spelling body)) b) := by
  have htext : ((ofText a).append (below a (String.ofList (spelling body)))).text =
      (a ++ String.ofList (spelling body)).toList := by
    rw [text_append, text_ofText, text_below, String.toList_append]
  have hspelling : (below a (String.ofList (spelling body))).lead = [] := by
    rw [below, ofText_spelling h]
    rfl
  -- the directive stands between the literal texts that meet there
  have hclear : ((below a (String.ofList (spelling body))).append
      (below (a ++ String.ofList (spelling body)) b)).Clear := by
    rw [below, ofText_spelling h]
    exact clear_cons_iff.2 ⟨absent_nil, clear_below _ b⟩
  refine (eq_ofText_of_clear (laid_append_below (laid_append_below (laid_ofText a)
    (text_ofText a) _) htext b) ?_ ?_).symm
  · rw [append_assoc]
    refine (clear_ofText a).append hclear ?_
    have hpos : 0 < (below a (String.ofList (spelling body))).pieces.length := by
      rw [below, ofText_spelling h]
      exact Nat.one_pos
    rw [lead_append, hspelling, seam_of_lt hpos]
    rfl
  · rw [text_append, htext, text_below, ← String.toList_append]

end Template

end BracketTemplate
