/-
# Well nested texts

A text is well nested when its directives form a tree: every end closes the block
opened last that is still open, which is of its own kind, and no block is left
open (`WellNested`).  `Outline` is that tree, with the literal text at its nodes,
and a text is well nested exactly when its pieces are those of an outline
(`wellNested_iff`).

In an outline the search for the end of a block sees through what stands between
(`closeFrom?_directives`), so the end it finds is that of the tree.
-/

import BracketTemplate.Proofs.OpenLoops

namespace BracketTemplate

/-- Whether a directive neither opens nor closes a block. -/
def Directive.IsLeaf (d : Directive) : Prop :=
  d.kind = .component ∨ d.kind = .html ∨ d.kind = .variable

/-- A directive is a leaf, or opens a block, or closes one. -/
theorem Directive.isLeaf_or (d : Directive) :
    d.IsLeaf ∨ (∃ b : Block, d.kind = b.opener) ∨ ∃ b : Block, d.kind = b.closer := by
  cases h : d.kind with
  | component => exact .inl (.inl h)
  | loop => exact .inr (.inl ⟨.loop, rfl⟩)
  | endLoop => exact .inr (.inr ⟨.loop, rfl⟩)
  | condition => exact .inr (.inl ⟨.condition, rfl⟩)
  | endCondition => exact .inr (.inr ⟨.condition, rfl⟩)
  | html => exact .inl (.inr (.inl h))
  | «variable» => exact .inl (.inr (.inr h))

/-- Whether directives close each block as it was opened, with the blocks that
are open in front of them, the innermost first. -/
def nests : (opened : List Block) → List Directive → Bool
  | opened, [] => opened.isEmpty
  | opened, d :: rest =>
    match d.kind with
    | .loop => nests (.loop :: opened) rest
    | .condition => nests (.condition :: opened) rest
    | .endLoop => opened.head? == some .loop && nests opened.tail rest
    | .endCondition => opened.head? == some .condition && nests opened.tail rest
    | .component | .html | .variable => nests opened rest

/-- Whether the blocks of a text are well nested. -/
def WellNested (text : String) : Prop := nests [] (Directive.scan text) = true

variable {opened : List Block} {d : Directive} {rest : List Directive} {b : Block}

theorem nests_of_opener (h : d.kind = b.opener) :
    nests opened (d :: rest) = nests (b :: opened) rest := by
  rw [nests]
  cases b <;> rw [h] <;> rfl

theorem nests_of_closer (h : d.kind = b.closer) :
    nests (b :: opened) (d :: rest) = nests opened rest := by
  rw [nests]
  cases b <;> rw [h] <;> rfl

theorem nests_of_isLeaf (h : d.IsLeaf) : nests opened (d :: rest) = nests opened rest := by
  rw [nests]
  rcases h with h | h | h <;> rw [h]

/-- An end belongs to the block opened last. -/
theorem exists_of_nests_closer (h : d.kind = b.closer) (hn : nests opened (d :: rest) = true) :
    ∃ outer, opened = b :: outer ∧ nests outer rest = true := by
  have hhead : (opened.head? == some b && nests opened.tail rest) = true := by
    rw [nests] at hn
    cases b <;> rw [h] at hn <;> exact hn
  obtain ⟨hb, hrest⟩ := Bool.and_eq_true_iff.1 hhead
  obtain ⟨outer, rfl⟩ := List.head?_eq_some_iff.1 (beq_iff_eq.1 hb)
  exact ⟨outer, rfl, hrest⟩

/-- The tree of a well nested text: its leaves and blocks in order. -/
inductive Outline where
  | nil
  | leaf (piece : Piece) (h : piece.directive.IsLeaf) (rest : Outline)
  | block (b : Block) (opener : Piece) (ho : opener.directive.kind = b.opener) (body : Outline)
    (closer : Piece) (hc : closer.directive.kind = b.closer) (rest : Outline)

namespace Outline

/-- The pieces of an outline, in the order of the text. -/
def pieces : Outline → List Piece
  | nil => []
  | leaf piece _ rest => piece :: rest.pieces
  | block _ opener _ body closer _ rest =>
    opener :: (body.pieces ++ closer :: rest.pieces)

/-- The directives of an outline. -/
def directives (o : Outline) : List Directive := o.pieces.map (·.directive)

/-- What is nested behind an outline is nested with it. -/
theorem nests_directives (o : Outline) (opened : List Block) (rest : List Directive) :
    nests opened (o.directives ++ rest) = nests opened rest := by
  induction o generalizing opened rest with
  | nil => rfl
  | leaf piece h tail ih => exact (nests_of_isLeaf h).trans (ih opened rest)
  | block b opener ho body closer hc tail ihbody ihtail =>
    have hdirectives : (block b opener ho body closer hc tail).directives ++ rest =
        opener.directive :: (body.directives ++ closer.directive :: (tail.directives ++ rest)) := by
      simp [directives, pieces]
    rw [hdirectives, nests_of_opener ho, ihbody, nests_of_closer hc, ihtail]

/-- **The search for an end sees through an outline.** -/
theorem closeFrom?_directives (b : Block) (o : Outline) (waiting : Nat) (rest : List Directive) :
    b.closeFrom? waiting (o.directives ++ rest) =
      (b.closeFrom? waiting rest).map (· + o.pieces.length) := by
  induction o generalizing waiting rest with
  | nil => exact Option.map_id'.symm
  | leaf piece h tail ih =>
    have ho : piece.directive.kind ≠ b.opener := by
      rcases h with h | h | h <;> rw [h] <;> cases b <;> decide
    have hc : piece.directive.kind ≠ b.closer := by
      rcases h with h | h | h <;> rw [h] <;> cases b <;> decide
    have hdirectives : (leaf piece h tail).directives ++ rest =
        piece.directive :: (tail.directives ++ rest) := rfl
    rw [hdirectives, b.closeFrom?_cons_other ho hc, ih, Option.map_map]
    rfl
  | block b' opener ho body closer hc tail ihbody ihtail =>
    have hdirectives : (block b' opener ho body closer hc tail).directives ++ rest =
        opener.directive :: (body.directives ++ closer.directive :: (tail.directives ++ rest)) := by
      simp [directives, pieces]
    rw [hdirectives]
    have hlength : (block b' opener ho body closer hc tail).pieces.length =
        tail.pieces.length + 1 + body.pieces.length + 1 := by
      simp only [pieces, List.length_cons, List.length_append]
      omega
    have hmap : (((((b.closeFrom? waiting rest).map (· + tail.pieces.length)).map (· + 1)).map
        (· + body.pieces.length)).map (· + 1)) = (b.closeFrom? waiting rest).map
          (· + (block b' opener ho body closer hc tail).pieces.length) := by
      rw [Option.map_map, Option.map_map, Option.map_map, hlength]
      congr 1
      funext k
      simp only [Function.comp_apply]
      omega
    rw [← hmap]
    by_cases hb : b' = b
    · -- the block waits for an end of its own, and its end is behind its body
      subst hb
      rw [b'.closeFrom?_cons_opener ho, ihbody, b'.closeFrom?_cons_closer hc, ihtail]
    · obtain ⟨hoo, hoc, hco, hcc⟩ := b.kinds_ne hb
      rw [b.closeFrom?_cons_other (ho ▸ hoo) (ho ▸ hoc), ihbody,
        b.closeFrom?_cons_other (hc ▸ hco) (hc ▸ hcc), ihtail]

/-- **A block of an outline is closed where it ends in the tree.** -/
theorem close?_block (b : Block) {before rest : List Directive} {opener closer : Directive}
    (hc : closer.kind = b.closer) (body : Outline) :
    b.close? (before ++ opener :: (body.directives ++ closer :: rest)) before.length =
      some (before.length + 1 + body.pieces.length) := by
  have hdrop : (before ++ opener :: (body.directives ++ closer :: rest)).drop
      (before.length + 1) = body.directives ++ closer :: rest := by
    rw [List.drop_length_add_append]
    rfl
  rw [Block.close?, hdrop, closeFrom?_directives, b.closeFrom?_cons_found hc]
  simp only [Option.map_some, Nat.zero_add, Nat.add_comm]

/-- What is left of nested directives behind an outline: nothing, or the end of
the innermost block that is open in front of it. -/
def Rest : (opened : List Block) → List Piece → Prop
  | [], ps => ps = []
  | b :: outer, ps => ∃ closer rest, ps = closer :: rest ∧
      closer.directive.kind = b.closer ∧ nests outer (rest.map (·.directive)) = true

/-- **Nested directives are an outline as far as it goes.** -/
theorem exists_of_nests {opened : List Block} {ps : List Piece}
    (h : nests opened (ps.map (·.directive)) = true) :
    ∃ (o : Outline) (rest : List Piece), ps = o.pieces ++ rest ∧ Rest opened rest := by
  induction hlength : ps.length using Nat.strongRecOn generalizing opened ps with
  | ind n ih =>
    cases ps with
    | nil =>
      cases opened with
      | nil => exact ⟨nil, [], rfl, rfl⟩
      | cons b outer => cases h
    | cons p ps =>
      rw [List.map_cons] at h
      rw [List.length_cons] at hlength
      rcases p.directive.isLeaf_or with hleaf | ⟨b, ho⟩ | ⟨b, hc⟩
      · rw [nests_of_isLeaf hleaf] at h
        obtain ⟨o, rest, rfl, hrest⟩ := ih ps.length (by omega) h rfl
        exact ⟨leaf p hleaf o, rest, rfl, hrest⟩
      · rw [nests_of_opener ho] at h
        obtain ⟨body, tail, rfl, closer, ps', rfl, hc, htail⟩ := ih ps.length (by omega) h rfl
        rw [List.length_append, List.length_cons] at hlength
        obtain ⟨o, rest, rfl, hrest⟩ := ih ps'.length (by omega) htail rfl
        exact ⟨block b p ho body closer hc o, rest, by simp [pieces], hrest⟩
      · obtain ⟨outer, rfl, houter⟩ := exists_of_nests_closer hc h
        exact ⟨nil, p :: ps, rfl, p, ps, rfl, hc, houter⟩

end Outline

/-- **The well nested texts are those of an outline.** -/
theorem wellNested_iff {text : String} :
    WellNested text ↔ ∃ o : Outline, o.pieces = (Template.ofText text).pieces := by
  constructor
  · intro h
    obtain ⟨o, rest, hpieces, rfl⟩ := Outline.exists_of_nests h
    exact ⟨o, (hpieces.trans (List.append_nil _)).symm⟩
  · rintro ⟨o, ho⟩
    have h := o.nests_directives [] []
    rw [List.append_nil, Outline.directives, ho] at h
    exact h

end BracketTemplate
