/-
# Other bodies in the directives of a text

The directives of a text can be given other bodies, whatever these are
(`Template.respell`).  The text is then taken apart at the same places
(`ofText_respell`): between the directives there were no others, and there still are
none.  As no body has a newline, the directives are on the same lines as before, and
only what they spell and the bytes at which they stand are different
(`forall₂_respelledFrom`).
-/

import BracketTemplate.Proofs.Layout

namespace BracketTemplate

open Directive

namespace Template

variable (f : Directive → List Char)

/-- What the directives of a text spell with other bodies, the literal texts as they are. -/
def respell (text : String) : String :=
  String.ofList ((ofText text).lead ++
    (ofText text).pieces.flatMap fun p => spelling (f p.directive) ++ p.literal)

/-- Pieces with other bodies in their directives, laid out behind a literal text. -/
def respelledFrom : (offset : Nat) → (lead : List Char) → List Piece → List Piece
  | _, _, [] => []
  | offset, lead, p :: rest =>
    let d := ofBody (f p.directive) (offset + byteLength lead) p.directive.line
    ⟨d, p.literal⟩ :: respelledFrom d.stop p.literal rest

/-- A template with other bodies in its directives. -/
def respelled (t : Template) : Template := ⟨t.lead, respelledFrom f 0 t.lead t.pieces⟩

/-- **Pieces that are spelled with other bodies** have the same literal texts, and
their directives are on the same lines. -/
theorem forall₂_respelledFrom {offset offset' line : Nat} {lead : List Char} {ps : List Piece}
    (h : LaidFrom offset line lead ps) :
    List.Forall₂ (fun p q => q.literal = p.literal ∧ ∃ start start',
        p.directive = ofBody p.directive.body start p.directive.line ∧
        q.directive = ofBody (f p.directive) start' p.directive.line)
      ps (respelledFrom f offset' lead ps) := by
  induction ps generalizing offset offset' line lead with
  | nil => exact .nil
  | cons p rest ih =>
    obtain ⟨-, hp, hrest⟩ := h
    have hline : p.directive.line = line + lead.count '\n' := congrArg Directive.line hp
    rw [← hline] at hp
    exact .cons ⟨rfl, _, _, hp, rfl⟩ (ih hrest)

theorem piecesText_respelledFrom (offset : Nat) (lead : List Char) (ps : List Piece) :
    piecesText (respelledFrom f offset lead ps) =
      ps.flatMap fun p => spelling (f p.directive) ++ p.literal := by
  induction ps generalizing offset lead with
  | nil => rfl
  | cons p rest ih =>
    rw [respelledFrom, piecesText_cons, body_ofBody, ih, List.flatMap_cons, List.append_assoc]

/-- What is spelled with other bodies lies where it says. -/
theorem laidFrom_respelledFrom (hf : ∀ d : Directive, IsBody d.body → IsBody (f d))
    {offset offset' line : Nat} {lead : List Char} {ps : List Piece}
    (h : LaidFrom offset line lead ps) :
    LaidFrom offset' line lead (respelledFrom f offset' lead ps) := by
  induction ps generalizing offset offset' line lead with
  | nil => trivial
  | cons p rest ih =>
    obtain ⟨hbody, hp, hrest⟩ := h
    have hline : p.directive.line = line + lead.count '\n' := congrArg Directive.line hp
    refine ⟨?_, ?_, ih hrest⟩
    · rw [body_ofBody]
      exact hf _ hbody
    · rw [body_ofBody, ← hline]

/-- The literal texts are those that there were. -/
theorem clear_respelledFrom {offset : Nat} {lead : List Char} {ps : List Piece}
    (h : Clear ⟨lead, ps⟩) : Clear ⟨lead, respelledFrom f offset lead ps⟩ := by
  induction ps generalizing offset lead with
  | nil => exact h
  | cons p rest ih =>
    obtain ⟨hlead, hrest⟩ := clear_cons_iff.1 h
    exact clear_cons_iff.2 ⟨hlead, ih hrest⟩

/-- **A text with other bodies in its directives is taken apart at the same places.** -/
theorem ofText_respell (hf : ∀ d : Directive, IsBody d.body → IsBody (f d)) (text : String) :
    ofText (respell f text) = respelled f (ofText text) := by
  refine (eq_ofText_of_clear (laidFrom_respelledFrom f hf (laid_ofText text))
    (clear_respelledFrom f (clear_ofText text)) ?_).symm
  rw [respell, String.toList_ofList, ← piecesText_respelledFrom f 0 (ofText text).lead]
  rfl

/-- So its directives have just these bodies. -/
theorem body_scan_respell (hf : ∀ d : Directive, IsBody d.body → IsBody (f d)) (text : String) :
    (scan (respell f text)).map body = (scan text).map f := by
  have hbodies : List.Forall₂ (fun p q => f p.directive = q.directive.body) (ofText text).pieces
      (respelled f (ofText text)).pieces := by
    refine (forall₂_respelledFrom f (laid_ofText text)).imp fun p q hq => ?_
    obtain ⟨-, start, start', -, hq⟩ := hq
    rw [hq, body_ofBody]
  rw [scan, scan, ofText_respell f hf, directives, directives, List.map_map, List.map_map,
    eq_comm, ← List.forall₂_eq_eq_eq, List.forall₂_map_left_iff, List.forall₂_map_right_iff]
  exact hbodies

end Template

end BracketTemplate
