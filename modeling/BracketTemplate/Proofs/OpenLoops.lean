/-
# What holds of every state of a render

A state is sound (`Sound`) if the cursor is in range and its open loops are in
order: each belongs to a loop directive of the template and stands at an item
that it has, an inner loop belongs to a later directive than an outer one, and
none belongs to a directive behind the cursor.  No loop is open before the first
step.

The start is sound (`sound_start`) and every move keeps it (`Sound.move`).  After
a step all open loops belong to directives in front of the cursor, so a loop at
the cursor has been gone back to (`Sound.kind_of_isReentry`).
-/

import BracketTemplate.Proofs.Blocks
import BracketTemplate.Proofs.Turns

namespace BracketTemplate

/-- There is a directive for every piece. -/
theorem Template.length_directives (t : Template) : t.directives.length = t.pieces.length :=
  List.length_map _

namespace Machine

/-- The order that the open loops of a render are in. -/
structure Sound (t : Template) (s : State) : Prop where
  /-- The cursor is at a directive or behind the last one. -/
  cursor_le : s.cursor ≤ t.pieces.length
  /-- An open loop belongs to a loop directive. -/
  opener : ∀ f ∈ s.loops, ∃ p, t.pieces[f.origin]? = some p ∧ p.directive.kind = .loop ∧
    f.opener = p.directive
  /-- An open loop stands at one of its items. -/
  current_lt : ∀ f ∈ s.loops, f.current < f.items.length
  /-- Inner loops are opened by later directives. -/
  ordered : s.loops.Pairwise fun f g => g.origin < f.origin
  /-- No open loop is behind the cursor. -/
  origin_le : ∀ f ∈ s.loops, f.origin ≤ s.cursor
  /-- A loop is opened by a step. -/
  steps_pos : s.loops ≠ [] → 0 < s.steps

variable {inclusion : Inclusion} {layer : Nat} {t : Template}

/-- A render starts in order. -/
theorem sound_start (t : Template) (context : Context) : Sound t (start t context) where
  cursor_le := Nat.zero_le _
  opener := fun _ hf => absurd hf List.not_mem_nil
  current_lt := fun _ hf => absurd hf List.not_mem_nil
  ordered := List.Pairwise.nil
  origin_le := fun _ hf => absurd hf List.not_mem_nil
  steps_pos := fun h => absurd rfl h

/-- The cursor is at the origin of the innermost loop on re-entry. -/
theorem isReentry_iff {s : State} :
    s.isReentry = true ↔ ∃ f outer, s.loops = f :: outer ∧ f.origin = s.cursor := by
  unfold State.isReentry
  cases s.loops with
  | nil => simp
  | cons f outer => simp

/-- On re-entry the directive at the cursor is a loop. -/
theorem Sound.kind_of_isReentry {s : State} (hs : Sound t s) (h : s.isReentry = true)
    {p : Piece} (hp : t.pieces[s.cursor]? = some p) : p.directive.kind = .loop := by
  obtain ⟨f, outer, hloops, horigin⟩ := isReentry_iff.1 h
  obtain ⟨q, hq, hkind, -⟩ := hs.opener f (by rw [hloops]; exact List.mem_cons_self)
  rw [horigin, hp] at hq
  rwa [Option.some.inj hq]

/-- An open loop that does not belong to a directive in front of the cursor is the
innermost one. -/
theorem Sound.origin_lt_or {s : State} (hs : Sound t s) {f : Frame} (hf : f ∈ s.loops) :
    f.origin < s.cursor ∨ ((∃ outer, s.loops = f :: outer) ∧ f.origin = s.cursor) := by
  rcases Nat.lt_or_eq_of_le (hs.origin_le f hf) with hlt | heq
  · exact .inl hlt
  refine .inr ⟨?_, heq⟩
  cases hloops : s.loops with
  | nil => rw [hloops] at hf; exact absurd hf List.not_mem_nil
  | cons g outer =>
    have hg := hs.origin_le g (by rw [hloops]; exact List.mem_cons_self)
    rw [hloops] at hf
    rcases List.mem_cons.1 hf with rfl | hf
    · exact ⟨outer, rfl⟩
    · -- a loop around the innermost one begins before it, and so before the cursor
      have hordered := hs.ordered
      rw [hloops] at hordered
      have := List.rel_of_pairwise_cons hordered hf
      omega

/-- A loop is opened in front of the cursor unless it has been gone back to. -/
theorem Sound.origin_lt {s : State} (hs : Sound t s) {f : Frame} (hf : f ∈ s.loops)
    (h : s.isReentry = false) : f.origin < s.cursor := by
  rcases hs.origin_lt_or hf with hlt | ⟨⟨outer, hloops⟩, horigin⟩
  · exact hlt
  · have hentry : s.isReentry = true := isReentry_iff.2 ⟨f, outer, hloops, horigin⟩
    rw [h] at hentry
    cases hentry

/-- A step keeps the order when no loop is opened by it and the cursor goes
forward. -/
theorem Sound.step {s s' : State} (hs : Sound t s) (hloops : s'.loops <:+ s.loops)
    (hlt : s.cursor < s'.cursor) (hle : s'.cursor ≤ t.pieces.length)
    (hsteps : s'.steps = s.steps + 1) : Sound t s' where
  cursor_le := hle
  opener := fun f hf => hs.opener f (hloops.mem hf)
  current_lt := fun f hf => hs.current_lt f (hloops.mem hf)
  ordered := hs.ordered.sublist hloops.sublist
  origin_le := fun f hf => Nat.le_of_lt (Nat.lt_of_le_of_lt (hs.origin_le f (hloops.mem hf)) hlt)
  steps_pos := fun _ => by omega

/-- **Every move keeps the open loops in order.** -/
theorem Sound.move {s s' : State} (hs : Sound t s) {p : Piece}
    (hp : t.pieces[s.cursor]? = some p) (h : Move inclusion t p.directive s s') : Sound t s' := by
  obtain ⟨hlt, -⟩ := List.getElem?_eq_some_iff.1 hp
  cases h with
  | pass text context _ _ _ =>
    exact hs.step (List.suffix_refl _) (Nat.lt_succ_self _) hlt rfl
  | skip b k _ hclose =>
    obtain ⟨hk, d, hd, -⟩ := b.exists_of_close? hclose
    obtain ⟨hlen, -⟩ := List.getElem?_eq_some_iff.1 hd
    rw [Template.length_directives] at hlen
    exact hs.step (List.suffix_refl _) (Nat.lt_succ_of_lt hk) hlen rfl
  | leave f outer _ hloops _ =>
    refine hs.step ?_ (Nat.lt_succ_self _) hlt rfl
    rw [hloops]
    exact List.suffix_cons f outer
  | enter binding? k first rest hkind hentry _ =>
    refine ⟨hlt, ?_, ?_, ?_, ?_, fun _ => Nat.succ_pos _⟩
    · intro f hf
      rcases List.mem_cons.1 hf with rfl | hf
      · exact ⟨p, hp, hkind, rfl⟩
      · exact hs.opener f hf
    · intro f hf
      rcases List.mem_cons.1 hf with rfl | hf
      · exact Nat.succ_pos _
      · exact hs.current_lt f hf
    · exact List.pairwise_cons.2 ⟨fun f hf => hs.origin_lt hf hentry, hs.ordered⟩
    · intro f hf
      rcases List.mem_cons.1 hf with rfl | hf
      · exact Nat.le_succ _
      · exact Nat.le_succ_of_le (hs.origin_le f hf)
  | turnBack f outer item _ hloops hitem =>
    have hf : f ∈ s.loops := by rw [hloops]; exact List.mem_cons_self
    have houter : ∀ g ∈ outer, g ∈ s.loops := fun g hg => by
      rw [hloops]; exact List.mem_cons_of_mem f hg
    have hordered := hs.ordered
    rw [hloops] at hordered
    obtain ⟨hbelow, htail⟩ := List.pairwise_cons.1 hordered
    obtain ⟨hcurrent, -⟩ := List.getElem?_eq_some_iff.1 hitem
    refine ⟨Nat.le_trans (hs.origin_le f hf) (Nat.le_of_lt hlt), ?_, ?_, ?_, ?_, ?_⟩
    · intro g hg
      rcases List.mem_cons.1 hg with rfl | hg
      · exact hs.opener f hf
      · exact hs.opener g (houter g hg)
    · intro g hg
      rcases List.mem_cons.1 hg with rfl | hg
      · exact hcurrent
      · exact hs.current_lt g (houter g hg)
    · exact List.pairwise_cons.2 ⟨hbelow, htail⟩
    · intro g hg
      rcases List.mem_cons.1 hg with rfl | hg
      · exact Nat.le_refl _
      · exact Nat.le_of_lt (hbelow g hg)
    · intro _
      rw [State.bind_steps]
      exact hs.steps_pos (by rw [hloops]; exact List.cons_ne_nil _ _)

end Machine

end BracketTemplate
