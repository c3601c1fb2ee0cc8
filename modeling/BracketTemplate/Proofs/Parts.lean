/-
# A part of a template

A template between two others is carried out as it is by itself (`partReplay`),
with the indices moved by the directives in front of it.  It may be entered with
loops open around it, which it does not close, and with something printed before
(`partReplay_start`).  A block that it leaves open may find an end behind it, so
nothing is said then, unless there is no directive behind it.
-/

import BracketTemplate.Proofs.Layers
import BracketTemplate.Proofs.Seam

namespace BracketTemplate

/-- Whether templates are written the same, with directives on the same lines
unless lines are not looked at. -/
structure Template.Like (view : RenderError → RenderError) (t u : Template) : Prop where
  lead : u.lead = t.lead
  pieces : List.Forall₂ (fun p q => Directive.Like view p.directive q.directive ∧
    q.literal = p.literal) t.pieces u.pieces

namespace Template.Like

variable {view : RenderError → RenderError} {t u : Template}

protected theorem refl (view : RenderError → RenderError) (t : Template) : Like view t t :=
  ⟨rfl, List.forall₂_same.2 fun _ _ => ⟨⟨rfl, rfl, .inl rfl⟩, rfl⟩⟩

theorem length_eq (h : Like view t u) : u.pieces.length = t.pieces.length :=
  h.pieces.length_eq.symm

/-- The directives of both are of the same kinds. -/
theorem kinds_eq (h : Like view t u) :
    t.directives.map (·.kind) = u.directives.map (·.kind) := by
  unfold Template.directives
  rw [List.map_map, List.map_map]
  exact List.forall₂_eq_eq_eq ▸ List.forall₂_map_left_iff.2 (List.forall₂_map_right_iff.2
    (h.pieces.imp fun _ _ hpq => hpq.1.kind.symm))

theorem exists_getElem? (h : Like view t u) {i : Nat} {p : Piece} (hp : t.pieces[i]? = some p) :
    ∃ q, u.pieces[i]? = some q ∧ Directive.Like view p.directive q.directive ∧
      q.literal = p.literal := by
  obtain ⟨hi, rfl⟩ := List.getElem?_eq_some_iff.1 hp
  have hi' : i < u.pieces.length := by rwa [h.length_eq]
  exact ⟨u.pieces[i], List.getElem?_eq_getElem hi', h.pieces.get hi hi'⟩

end Template.Like

/-- A template is written the same at two places. -/
theorem Template.like_below_below (a a' b : String) :
    Template.Like RenderError.unplaced (.below a b) (.below a' b) where
  lead := rfl
  pieces := List.forall₂_map_left_iff.2 (List.forall₂_map_right_iff.2
    (List.forall₂_same.2 fun _ _ => ⟨⟨rfl, rfl, .inr rfl⟩, rfl⟩))

/-- A template is written the same further down. -/
theorem Template.like_below (a b : String) :
    Template.Like RenderError.unplaced (.ofText b) (.below a b) where
  lead := rfl
  pieces := List.forall₂_map_right_iff.2
    (List.forall₂_same.2 fun _ _ => ⟨⟨rfl, rfl, .inr rfl⟩, rfl⟩)

namespace Machine

variable {inclusion inclusion' : Inclusion} {view : RenderError → RenderError} {m M : Template}

/-- A template is found again between two others, with loops open around it that
belong to the one in front. -/
def partReplay (hlike : Template.Like view m M) (P Q : Template) (held : List Frame)
    (before : String) (excused : RenderError → Prop)
    (hheld : ∀ f ∈ held, f.origin < P.pieces.length)
    (hmatched : held = [] ∨ ∀ keyword line, excused (.unmatchedClose keyword line))
    (hterminated : Q.pieces = [] ∨ ∀ keyword line, excused (.unterminatedBlock keyword line))
    (hincluded : ∀ name context,
      (∀ e, (inclusion name context).result = .error e → ¬ excused e) →
        (inclusion' name context).outcome = (inclusion name context).outcome) :
    Replay inclusion inclusion' m ((P.append M).append Q) where
  place := fun i => P.pieces.length + i
  live := fun _ => True
  extra := m.seam Q
  held := held
  before := before
  view := view
  excused := excused
  piece := fun {i p} hp _ => by
    obtain ⟨q, hq, hqlike, hliteral⟩ := hlike.exists_getElem? hp
    rw [← Template.getElem?_append_right P] at hq
    refine ⟨_, Template.getElem?_append_left hq, hqlike, ?_⟩
    have hseam : (P.append M).seam Q (P.pieces.length + i + 1) = m.seam Q (i + 1) := by
      unfold Template.seam
      rw [Template.length_append, hlike.length_eq, Nat.add_assoc]
      exact if_congr Nat.add_left_cancel_iff rfl rfl
    rw [hseam, hliteral]
  place_succ := fun _ _ => rfl
  extra_eq := fun hi _ => Template.seam_of_lt hi
  live_of_kind := fun _ _ => trivial
  place_inj := fun _ _ h => Nat.add_left_cancel h
  held_ne := fun f hf i _ => by have := hheld f hf; omega
  held_eq := hmatched
  close := fun {b i k} _ hk => by
    rw [b.close?_congr hlike.kinds_eq] at hk
    rw [Template.directives_append, Template.directives_append, List.append_assoc]
    have hsegment := b.close?_segment hk P.directives Q.directives
    rwa [Template.length_directives] at hsegment
  close_none := fun {b i} _ hk => by
    refine hterminated.symm.imp id fun hQ => ?_
    have hnil : Q.directives = [] := by rw [Template.directives, hQ, List.map_nil]
    rw [b.close?_congr hlike.kinds_eq] at hk
    rw [Template.directives_append, Template.directives_append, hnil, List.append_nil,
      ← Template.length_directives, b.close?_append_right, hk, Option.map_none]
  included := hincluded

/-- The other render is at the beginning of the part. -/
theorem partReplay_start {hlike : Template.Like view m M} {P Q : Template} {held : List Frame}
    {before : String} {excused : RenderError → Prop}
    {hheld : ∀ f ∈ held, f.origin < P.pieces.length}
    {hmatched : held = [] ∨ ∀ keyword line, excused (.unmatchedClose keyword line)}
    {hterminated : Q.pieces = [] ∨ ∀ keyword line, excused (.unterminatedBlock keyword line)}
    {hincluded : ∀ name context,
      (∀ e, (inclusion name context).result = .error e → ¬ excused e) →
        (inclusion' name context).outcome = (inclusion name context).outcome}
    {context : Context} {s' : State} (hcursor : s'.cursor = P.pieces.length)
    (hloops : s'.loops = held)
    (houtput : s'.output = before ++ String.ofList (m.lead ++ m.seam Q 0))
    (hcontext : s'.context = context) :
    (partReplay hlike P Q held before excused hheld hmatched hterminated hincluded).Mirrors
      (start m context) s' where
  cursor := hcursor
  loops := ⟨[], hloops, .nil⟩
  output := by
    rw [houtput, String.ofList_append]
    rfl
  context := hcontext

end Machine

end BracketTemplate
