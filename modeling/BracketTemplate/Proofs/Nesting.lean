/-
# The loops that are open in a well nested text

In a well nested text every block has an end, every end belongs to a block, and a
block that begins in another one ends in it, whatever their kinds (`BlocksNest`).
So no loop hides an end or a beginning from another (`EndHidden`, `StartHidden`),
and the loops that are open are known from the place of the cursor alone
(`enclosingLoops`):

| the directive passed | loops around the next one |
| --- | --- |
| begins a loop | that loop, innermost |
| ends a loop | all but the innermost, which is the one that it ends |
| any other | the same |

While a text is rendered the cursor also goes past blocks and back to loops.  What
is open stays what the text says (`Machine.inBlocks_of_course`), with one addition:
a loop that has been gone back to is open when its own directive is come to again.
-/

import BracketTemplate.Proofs.Blame
import BracketTemplate.Proofs.LoopStack
import BracketTemplate.Proofs.Outline

namespace BracketTemplate

namespace Outline

theorem directives_leaf (piece : Piece) (h : piece.directive.IsLeaf) (rest : Outline) :
    (leaf piece h rest).directives = piece.directive :: rest.directives := rfl

theorem directives_block (b : Block) (opener : Piece) (ho : opener.directive.kind = b.opener)
    (body : Outline) (closer : Piece) (hc : closer.directive.kind = b.closer) (rest : Outline) :
    (block b opener ho body closer hc rest).directives =
      opener.directive :: (body.directives ++ closer.directive :: rest.directives) := by
  simp [directives, pieces]

theorem length_directives (o : Outline) : o.directives.length = o.pieces.length :=
  List.length_map _

/-- A leaf neither opens nor closes a block. -/
theorem isLeaf_ne {d : Directive} (h : d.IsLeaf) (b : Block) :
    d.kind ≠ b.opener ∧ d.kind ≠ b.closer := by
  rcases h with h | h | h <;> rw [h] <;> cases b <;> decide

/-- **What begins a block in an outline is followed by the outline of its body and
by its end.** -/
theorem exists_of_opener (o : Outline) {b : Block} {before after : List Directive} {d : Directive}
    (hd : d.kind = b.opener) (h : o.directives = before ++ d :: after) :
    ∃ (body : Outline) (c : Directive) (rest : List Directive),
      after = body.directives ++ c :: rest ∧ c.kind = b.closer := by
  induction o generalizing before after with
  | nil => cases before <;> cases h
  | leaf piece hleaf rest ih =>
    rw [directives_leaf] at h
    cases before with
    | nil =>
      obtain rfl : piece.directive = d := (List.cons.inj h).1
      exact absurd hd (isLeaf_ne hleaf b).1
    | cons x before => exact ih (List.cons.inj h).2
  | block b' opener ho body closer hc rest ihbody ihrest =>
    rw [directives_block] at h
    cases before with
    | nil =>
      obtain ⟨rfl, rfl⟩ := List.cons.inj h
      obtain rfl : b' = b := b.opener_inj.1 (ho.symm.trans hd)
      exact ⟨body, closer.directive, rest.directives, rfl, hc⟩
    | cons x before =>
      rcases List.append_eq_append_iff.1 (List.cons.inj h).2 with
        ⟨behind, rfl, hbehind⟩ | ⟨inside, hinside, hend⟩
      · cases behind with
        | nil =>
          obtain rfl : closer.directive = d := (List.cons.inj hbehind).1
          exact absurd (hd.symm.trans hc) (b'.opener_ne_closer_of b)
        | cons y behind => exact ihrest (List.cons.inj hbehind).2
      · cases inside with
        | nil =>
          obtain rfl : d = closer.directive := (List.cons.inj hend).1
          exact absurd (hd.symm.trans hc) (b'.opener_ne_closer_of b)
        | cons y inside =>
          rw [List.cons_append] at hend
          obtain ⟨rfl, rfl⟩ := List.cons.inj hend
          obtain ⟨body', c, rest', rfl, hc'⟩ := ihbody hinside
          exact ⟨body', c, _, by rw [List.append_assoc, List.cons_append], hc'⟩

/-- **What ends a block in an outline stands behind the beginning of the block and
the outline of its body.** -/
theorem exists_of_closer (o : Outline) {b : Block} {before after : List Directive} {d : Directive}
    (hd : d.kind = b.closer) (h : o.directives = before ++ d :: after) :
    ∃ (first : List Directive) (c : Directive) (body : Outline),
      before = first ++ c :: body.directives ∧ c.kind = b.opener := by
  induction o generalizing before after with
  | nil => cases before <;> cases h
  | leaf piece hleaf rest ih =>
    rw [directives_leaf] at h
    cases before with
    | nil =>
      obtain rfl : piece.directive = d := (List.cons.inj h).1
      exact absurd hd (isLeaf_ne hleaf b).2
    | cons x before =>
      obtain ⟨first, c, body, rfl, hc⟩ := ih (List.cons.inj h).2
      exact ⟨x :: first, c, body, rfl, hc⟩
  | block b' opener ho body closer hc rest ihbody ihrest =>
    rw [directives_block] at h
    cases before with
    | nil =>
      obtain rfl : opener.directive = d := (List.cons.inj h).1
      exact absurd (ho.symm.trans hd) (b.opener_ne_closer_of b')
    | cons x before =>
      rw [List.cons_append] at h
      obtain ⟨rfl, htail⟩ := List.cons.inj h
      rcases List.append_eq_append_iff.1 htail with
        ⟨behind, rfl, hbehind⟩ | ⟨inside, hinside, hend⟩
      · cases behind with
        | nil =>
          obtain rfl : closer.directive = d := (List.cons.inj hbehind).1
          obtain rfl : b' = b := b.closer_inj.1 (hc.symm.trans hd)
          exact ⟨[], opener.directive, body, by rw [List.append_nil]; rfl, ho⟩
        | cons y behind =>
          obtain ⟨first, c, body', rfl, hc'⟩ := ihrest (List.cons.inj hbehind).2
          exact ⟨opener.directive :: (body.directives ++ y :: first), c, body', by simp, hc'⟩
      · cases inside with
        | nil =>
          obtain rfl : d = closer.directive := (List.cons.inj hend).1
          obtain rfl : b' = b := b.closer_inj.1 (hc.symm.trans hd)
          rw [List.append_nil] at hinside
          exact ⟨[], opener.directive, body, by rw [hinside]; rfl, ho⟩
        | cons y inside =>
          obtain rfl : d = y := (List.cons.inj hend).1
          obtain ⟨first, c, body', rfl, hc'⟩ := ihbody hinside
          exact ⟨opener.directive :: first, c, body', rfl, hc'⟩

/-- A block of an outline reaches from its beginning to its end. -/
theorem spans_block {b : Block} (before : List Directive) {d c : Directive} (body : Outline)
    (rest : List Directive) (hd : d.kind = b.opener) (hc : c.kind = b.closer) :
    b.Spans (before ++ d :: (body.directives ++ c :: rest)) before.length
      (before.length + 1 + body.directives.length) := by
  refine ⟨⟨d, ?_, hd⟩, ?_⟩
  · rw [List.getElem?_append_right (Nat.le_refl _), Nat.sub_self]
    rfl
  · rw [length_directives]
    exact close?_block b hc body

end Outline

/-- A list is cut in two around each of its elements. -/
theorem eq_append_cons_of_getElem? {α : Type} {xs : List α} {i : Nat} {x : α}
    (h : xs[i]? = some x) : ∃ before after, xs = before ++ x :: after ∧ before.length = i := by
  obtain ⟨hi, rfl⟩ := List.getElem?_eq_some_iff.1 h
  refine ⟨xs.take i, xs.drop (i + 1), ?_, List.length_take_of_le (Nat.le_of_lt hi)⟩
  rw [← List.drop_eq_getElem_cons hi, List.take_append_drop]

/-- Whether every block has an end, every end a block, and a block that begins in
another one an end in it. -/
structure BlocksNest (ds : List Directive) : Prop where
  closed : ∀ (b : Block) i d, ds[i]? = some d → d.kind = b.opener → ∃ k, b.Spans ds i k
  opened : ∀ (b : Block) k d, ds[k]? = some d → d.kind = b.closer → ∃ i, b.Spans ds i k
  inner : ∀ (b b' : Block) i k j m, b.Spans ds i k → b'.Spans ds j m → i < j → j < k → m < k

/-- **The blocks of an outline nest.** -/
theorem Outline.blocksNest (o : Outline) : BlocksNest o.directives where
  closed := by
    intro b i d hd ho
    obtain ⟨before, after, h, rfl⟩ := eq_append_cons_of_getElem? hd
    obtain ⟨body, c, rest, rfl, hc⟩ := o.exists_of_opener ho h
    rw [h]
    exact ⟨_, spans_block before body rest ho hc⟩
  opened := by
    intro b k d hd hc
    obtain ⟨before, after, h, rfl⟩ := eq_append_cons_of_getElem? hd
    obtain ⟨first, c, body, rfl, ho⟩ := o.exists_of_closer hc h
    rw [List.append_assoc, List.cons_append] at h
    refine ⟨first.length, ?_⟩
    have hspans := spans_block first body after ho hc
    rw [h, List.length_append, List.length_cons]
    rwa [Nat.add_right_comm] at hspans
  inner := by
    intro b b' i k j m hspans hspans' hij hjk
    obtain ⟨⟨d, hd, ho⟩, hclose⟩ := hspans
    obtain ⟨⟨d', hd', ho'⟩, hclose'⟩ := hspans'
    obtain ⟨before, after, h, rfl⟩ := eq_append_cons_of_getElem? hd
    obtain ⟨body, c, rest, rfl, hc⟩ := o.exists_of_opener ho h
    rw [h] at hclose hclose' hd'
    obtain rfl : k = _ := Option.some.inj (hclose.symm.trans (spans_block before body rest ho hc).2)
    -- the second block begins in the body of the first, so it is one of the body
    obtain ⟨j, rfl⟩ : ∃ j', j = before.length + 1 + j' := ⟨j - (before.length + 1), by omega⟩
    have hlt : j < body.directives.length := by omega
    have hbody : body.directives[j]? = some d' := by
      rw [← hd', List.getElem?_append_right (by omega),
        show before.length + 1 + j - before.length = j + 1 by omega, List.getElem?_cons_succ,
        List.getElem?_append_left hlt]
    obtain ⟨before', after', h', rfl⟩ := eq_append_cons_of_getElem? hbody
    obtain ⟨body', c', rest', rfl, hc'⟩ := body.exists_of_opener ho' h'
    have hends : b'.Spans (before ++ d :: (body.directives ++ c :: rest))
        (before.length + 1 + before'.length)
        (before.length + 1 + before'.length + 1 + body'.directives.length) := by
      have hspans := spans_block (before ++ d :: before') body' (rest' ++ c :: rest) ho' hc'
      rw [List.length_append, List.length_cons, ← Nat.add_assoc, Nat.add_right_comm] at hspans
      rw [h']
      simpa only [List.append_assoc, List.cons_append] using hspans
    obtain rfl : m = _ := Option.some.inj (hclose'.symm.trans hends.2)
    rw [h']
    simp only [List.length_append, List.length_cons]
    omega

/-- **The blocks of a well nested text nest.** -/
theorem blocksNest_of_wellNested {text : String} (h : WellNested text) :
    BlocksNest (Directive.scan text) := by
  obtain ⟨o, ho⟩ := wellNested_iff.1 h
  have hscan : Directive.scan text = o.directives := by
    rw [Outline.directives, ho]
    rfl
  rw [hscan]
  exact o.blocksNest

namespace BlocksNest

variable {ds : List Directive} (h : BlocksNest ds)

include h

/-- No loop holds the beginning of a condition and not its end. -/
theorem not_endHidden (o c : Nat) : ¬ Block.EndHidden ds o c := by
  rintro ⟨i, k, j, m, -, -, hloop, hcondition, hij, hjk, hkm⟩
  have := h.inner _ _ _ _ _ _ hloop hcondition hij hjk
  omega

/-- Nor its end and not its beginning. -/
theorem not_startHidden (c : Nat) : ¬ Block.StartHidden ds c := by
  rintro ⟨i, k, j, m, -, hloop, hcondition, hji, him, hmk⟩
  have := h.inner _ _ _ _ _ _ hcondition hloop hji him
  omega

end BlocksNest

/-- The loops that a directive is in, or that it ends, from the outermost in. -/
def enclosingLoops (ds : List Directive) (k : Nat) : List Nat :=
  (List.range k).filter fun i =>
    ds[i]?.any (fun d => d.kind = .loop) && (Block.loop.close? ds i).any fun m => k ≤ m

theorem mem_enclosingLoops {ds : List Directive} {i k : Nat} :
    i ∈ enclosingLoops ds k ↔ i < k ∧ ∃ m, Block.loop.Spans ds i m ∧ k ≤ m := by
  unfold enclosingLoops
  rw [List.mem_filter, List.mem_range, Bool.and_eq_true, Option.any_eq_true, Option.any_eq_true]
  simp only [decide_eq_true_eq]
  refine and_congr_right fun _ => ⟨?_, ?_⟩
  · rintro ⟨hopener, m, hm, hkm⟩
    exact ⟨m, ⟨hopener, hm⟩, hkm⟩
  · rintro ⟨m, ⟨hopener, hm⟩, hkm⟩
    exact ⟨hopener, m, hm, hkm⟩

theorem pairwise_enclosingLoops (ds : List Directive) (k : Nat) :
    (enclosingLoops ds k).Pairwise (· < ·) := List.pairwise_lt_range.filter _

/-- Increasing lists with one element more at the end are still increasing. -/
theorem pairwise_concat_of_lt {xs : List Nat} {k : Nat} (h : xs.Pairwise (· < ·))
    (hlt : ∀ i ∈ xs, i < k) : (xs ++ [k]).Pairwise (· < ·) :=
  List.pairwise_append.2 ⟨h, List.pairwise_singleton _ _, fun i hi j hj => by
    rw [List.mem_singleton.1 hj]
    exact hlt i hi⟩

/-- Behind a directive that neither begins nor ends a loop the next one is in the same
loops. -/
theorem enclosingLoops_of_other {ds : List Directive} {k : Nat} {d : Directive}
    (hd : ds[k]? = some d) (ho : d.kind ≠ .loop) (hc : d.kind ≠ .endLoop) :
    enclosingLoops ds (k + 1) = enclosingLoops ds k := by
  refine (pairwise_enclosingLoops ds _).eq_of_mem_iff (pairwise_enclosingLoops ds _) fun i => ?_
  rw [mem_enclosingLoops, mem_enclosingLoops]
  constructor
  · rintro ⟨hi, m, hspans, hm⟩
    refine ⟨Nat.lt_of_le_of_ne (Nat.le_of_lt_succ hi) ?_, m, hspans, Nat.le_of_succ_le hm⟩
    rintro rfl
    obtain ⟨⟨d', hd', hkind⟩, -⟩ := hspans
    obtain rfl : d = d' := Option.some.inj (hd.symm.trans hd')
    exact ho hkind
  · rintro ⟨hi, m, hspans, hm⟩
    refine ⟨Nat.lt_succ_of_lt hi, m, hspans, Nat.lt_of_le_of_ne hm ?_⟩
    rintro rfl
    obtain ⟨-, c, hc', hkind⟩ := hspans.closer
    obtain rfl : d = c := Option.some.inj (hd.symm.trans hc')
    exact hc hkind

namespace BlocksNest

variable {ds : List Directive} {k : Nat} {d : Directive} (h : BlocksNest ds) (hd : ds[k]? = some d)

include h hd

/-- Behind the beginning of a loop the next directive is in that loop as well. -/
theorem enclosingLoops_of_opener (ho : d.kind = .loop) :
    enclosingLoops ds (k + 1) = enclosingLoops ds k ++ [k] := by
  refine (pairwise_enclosingLoops ds _).eq_of_mem_iff
    (pairwise_concat_of_lt (pairwise_enclosingLoops ds k) fun i hi => (mem_enclosingLoops.1 hi).1)
    fun i => ?_
  rw [List.mem_append, List.mem_singleton, mem_enclosingLoops, mem_enclosingLoops]
  constructor
  · rintro ⟨hi, m, hspans, hm⟩
    rcases Nat.lt_succ_iff_lt_or_eq.1 hi with hi | rfl
    · exact .inl ⟨hi, m, hspans, Nat.le_of_succ_le hm⟩
    · exact .inr rfl
  · rintro (⟨hi, m, hspans, hm⟩ | rfl)
    · have hne := hspans.closer
      refine ⟨Nat.lt_succ_of_lt hi, m, hspans, Nat.lt_of_le_of_ne hm ?_⟩
      rintro rfl
      obtain ⟨-, c, hc, hkind⟩ := hne
      obtain rfl : d = c := Option.some.inj (hd.symm.trans hc)
      exact absurd (ho.symm.trans hkind) Block.loop.opener_ne_closer
    · obtain ⟨m, hspans⟩ := h.closed .loop i d hd ho
      exact ⟨Nat.lt_succ_self i, m, hspans, hspans.closer.1⟩

/-- Behind the end of a loop it is in all loops but that one, which was the
innermost. -/
theorem enclosingLoops_of_closer (hc : d.kind = .endLoop) :
    ∃ i, Block.loop.Spans ds i k ∧ enclosingLoops ds k = enclosingLoops ds (k + 1) ++ [i] := by
  obtain ⟨i, hi⟩ := h.opened .loop k d hd hc
  have hik := hi.closer.1
  have hbelow : ∀ j, j ∈ enclosingLoops ds (k + 1) → j < i := by
    intro j hj
    obtain ⟨hj, m, hspans, hm⟩ := mem_enclosingLoops.1 hj
    rcases Nat.lt_trichotomy j i with hlt | rfl | hgt
    · exact hlt
    · have : m = k := Option.some.inj (hspans.2.symm.trans hi.2)
      omega
    · have hjk : j ≠ k := hspans.opener_ne_closer hi
      have := h.inner _ _ _ _ _ _ hi hspans hgt (by omega)
      omega
  refine ⟨i, hi, (pairwise_enclosingLoops ds k).eq_of_mem_iff
    (pairwise_concat_of_lt (pairwise_enclosingLoops ds (k + 1)) hbelow) fun j => ?_⟩
  rw [List.mem_append, List.mem_singleton]
  constructor
  · intro hj
    obtain ⟨hj, m, hspans, hm⟩ := mem_enclosingLoops.1 hj
    rcases Nat.lt_or_eq_of_le hm with hlt | rfl
    · exact .inl (mem_enclosingLoops.2 ⟨Nat.lt_succ_of_lt hj, m, hspans, hlt⟩)
    · -- two loops with one end: the inner one would have ended before
      rcases Nat.lt_trichotomy j i with hlt | heq | hgt
      · have := h.inner _ _ _ _ _ _ hspans hi hlt hik
        omega
      · exact .inr heq
      · have := h.inner _ _ _ _ _ _ hi hspans hgt hj
        omega
  · rintro (hj | rfl)
    · have hji := hbelow j hj
      obtain ⟨-, m, hspans, hm⟩ := mem_enclosingLoops.1 hj
      exact mem_enclosingLoops.2 ⟨by omega, m, hspans, by omega⟩
    · exact mem_enclosingLoops.2 ⟨hik, k, hi, Nat.le_refl k⟩

omit hd in
/-- **A directive is in as many loops as begin and do not end in front of it.** -/
theorem length_enclosingLoops (hk : k ≤ ds.length) :
    (enclosingLoops ds k).length + Block.loop.closes (ds.take k) =
      Block.loop.opens (ds.take k) := by
  induction k with
  | zero => rfl
  | succ k ih =>
    have hd : ds[k]? = some ds[k] := List.getElem?_eq_getElem hk
    have hk' := ih (Nat.le_of_lt hk)
    rw [List.take_succ_eq_append_getElem hk, Block.opens_concat, Block.closes_concat]
    by_cases ho : ds[k].kind = Block.loop.opener
    · have hc : ds[k].kind ≠ Block.loop.closer := by rw [ho]; decide
      rw [h.enclosingLoops_of_opener hd ho, List.length_append, List.length_singleton,
        if_pos ho, if_neg hc]
      omega
    · by_cases hc : ds[k].kind = Block.loop.closer
      · obtain ⟨i, -, heq⟩ := h.enclosingLoops_of_closer hd hc
        rw [heq, List.length_append, List.length_singleton] at hk'
        rw [if_neg ho, if_pos hc]
        omega
      · rw [enclosingLoops_of_other hd ho hc, if_neg ho, if_neg hc]
        omega

end BlocksNest

namespace Machine

variable {inclusion : Inclusion} {layer : Nat} {t : Template} {s s' : State} {p : Piece}

/-- The end of a loop takes the innermost loop one item on, or leaves it. -/
theorem exists_leads_of_endLoop (hp : t.pieces[s.cursor]? = some p)
    (hkind : p.directive.kind = .endLoop) (hsteps : s.steps ≤ maxSteps) {f : Frame}
    {outer : List Frame} (hloops : s.loops = f :: outer) :
    ∃ s', Leads inclusion layer t s s' ∧
      if f.current + 1 < f.items.length then
        s'.cursor = f.origin ∧ s'.loops = { f with current := f.current + 1 } :: outer
      else s'.cursor = s.cursor + 1 ∧ s'.loops = outer := by
  have hdispatch : dispatch inclusion layer t.directives s p.directive =
      closeLoop layer s p.directive := by
    unfold dispatch
    rw [hkind]
  unfold closeLoop at hdispatch
  rw [hloops] at hdispatch
  dsimp only at hdispatch
  by_cases hlt : f.current + 1 < f.items.length
  · rw [List.getElem?_eq_getElem hlt] at hdispatch
    have hflow : (dispatch inclusion layer t.directives s p.directive).flow =
        .ok (.rewind f.origin) := congrArg Dispatch.flow hdispatch
    have hlead := leads_of_dispatch hp hsteps hflow
    rw [hdispatch] at hlead
    refine ⟨_, hlead, ?_⟩
    rw [if_pos hlt]
    exact ⟨rfl, rfl⟩
  · rw [List.getElem?_eq_none_iff.2 (Nat.le_of_not_lt hlt)] at hdispatch
    have hflow : (dispatch inclusion layer t.directives s p.directive).flow = .ok .next :=
      congrArg Dispatch.flow hdispatch
    have hlead := leads_of_dispatch hp hsteps hflow
    rw [hdispatch] at hlead
    refine ⟨_, hlead, ?_⟩
    rw [if_neg hlt]
    exact ⟨rfl, rfl⟩

/-- What the text says of the loops that are open when the directive `d` is come to,
after some turns. -/
structure InBlocks (inclusion : Inclusion) (layer : Nat) (t : Template)
    (turns : List (Nat × Flow)) (s : State) (d : Directive) : Prop where
  /-- They are the loops around the directive, and itself if it has been gone back to. -/
  origins : (s.loops.map (·.origin)).reverse =
    enclosingLoops t.directives s.cursor ++ if cameBack turns then [s.cursor] else []
  /-- Only a loop is gone back to. -/
  back : cameBack turns = true → d.kind = .loop
  /-- Each of them has the next one in it. -/
  outermost : (s.loops.map (·.origin)).reverse.Pairwise fun i j =>
    ∃ m m', Block.loop.Spans t.directives i m ∧ Block.loop.Spans t.directives j m' ∧
      i < j ∧ m' < m
  /-- There are as many as have begun and not ended in front of the directive. -/
  depth : s.loops.length + Block.loop.closes (t.directives.take s.cursor) =
    Block.loop.opens (t.directives.take s.cursor) + if cameBack turns then 1 else 0
  /-- The end of a loop acts on the loop that it ends in the text. -/
  ends : d.kind = .endLoop → ∃ f outer, s.loops = f :: outer ∧
    Block.loop.Spans t.directives f.origin s.cursor ∧
    (s.steps ≤ maxSteps → ∃ s', Leads inclusion layer t s s' ∧
      if f.current + 1 < f.items.length then
        s'.cursor = f.origin ∧ s'.loops = { f with current := f.current + 1 } :: outer
      else s'.cursor = s.cursor + 1 ∧ s'.loops = outer)

/-- **What is open is what the text says**, as long as its blocks nest. -/
theorem inBlocks_of_course (h : BlocksNest t.directives) {context : Context}
    {turns : List (Nat × Flow)} (hcourse : Course inclusion layer t (start t context) turns s)
    (hp : t.pieces[s.cursor]? = some p) : InBlocks inclusion layer t turns s p.directive := by
  obtain ⟨hs, htracked⟩ := sound_and_tracked_of_reaches hcourse.reaches
  have hback := isReentry_eq_cameBack hcourse
  have hend : ∀ f ∈ s.loops, ∃ m, Block.loop.Spans t.directives f.origin m ∧ s.cursor ≤ m := by
    intro f hf
    obtain ⟨q, hq, hkind, -⟩ := hs.opener f hf
    obtain ⟨m, hspans⟩ := h.closed .loop f.origin _ (Template.directives_getElem? hq) hkind
    refine ⟨m, hspans, Nat.le_of_not_lt fun hlt => ?_⟩
    exact h.not_endHidden _ _ (htracked.passed f hf m hspans.2 hlt)
  have horigins : (s.loops.map (·.origin)).reverse =
      enclosingLoops t.directives s.cursor ++ if cameBack turns then [s.cursor] else [] := by
    refine hs.pairwise_origins.eq_of_mem_iff ?_ fun i => ?_
    · split
      · exact pairwise_concat_of_lt (pairwise_enclosingLoops _ _)
          fun i hi => (mem_enclosingLoops.1 hi).1
      · rw [List.append_nil]
        exact pairwise_enclosingLoops _ _
    rw [List.mem_reverse, List.mem_map, List.mem_append, mem_enclosingLoops, ← hback]
    constructor
    · rintro ⟨f, hf, rfl⟩
      obtain ⟨m, hspans, hm⟩ := hend f hf
      by_cases hentry : s.isReentry = true
      · rw [if_pos hentry, List.mem_singleton]
        rcases Nat.lt_or_eq_of_le (hs.origin_le f hf) with hlt | heq
        · exact .inl ⟨hlt, m, hspans, hm⟩
        · exact .inr heq
      · exact .inl ⟨hs.origin_lt hf (Bool.eq_false_iff.2 hentry), m, hspans, hm⟩
    · rintro (⟨hi, m, hspans, hm⟩ | hi)
      · rcases htracked.inside i m hspans hi hm with hopen | hhidden
        · exact hopen
        · exact absurd hhidden (h.not_startHidden m)
      · split at hi
        · rename_i hentry
          obtain ⟨f, outer, hloops, horigin⟩ := isReentry_iff.1 hentry
          rw [List.mem_singleton.1 hi]
          exact ⟨f, by rw [hloops]; exact List.mem_cons_self, horigin⟩
        · exact absurd hi List.not_mem_nil
  have hcursor : s.cursor ≤ t.directives.length := by
    rw [Template.length_directives]
    exact hs.cursor_le
  exact {
    origins := horigins
    back := fun hcame => hs.kind_of_isReentry (hback.trans hcame) hp
    outermost := by
      have hmem : ∀ i ∈ (s.loops.map (·.origin)).reverse,
          ∃ m, Block.loop.Spans t.directives i m ∧ s.cursor ≤ m := by
        intro i hi
        obtain ⟨f, hf, rfl⟩ := List.mem_map.1 (List.mem_reverse.1 hi)
        exact hend f hf
      refine hs.pairwise_origins.imp_of_mem fun {i j} hi hj hlt => ?_
      obtain ⟨m, hm, hle⟩ := hmem i hi
      obtain ⟨m', hm', -⟩ := hmem j hj
      obtain ⟨f, hf, rfl⟩ := List.mem_map.1 (List.mem_reverse.1 hj)
      have hjm : f.origin ≠ m := hm'.opener_ne_closer hm
      have := hs.origin_le f hf
      exact ⟨m, m', hm, hm', hlt, h.inner _ _ _ _ _ _ hm hm' hlt (by omega)⟩
    depth := by
      have hlength := congrArg List.length horigins
      have henclosing := h.length_enclosingLoops hcursor
      rw [List.length_reverse, List.length_map, List.length_append] at hlength
      split at hlength
      · rename_i hcame
        rw [if_pos hcame]
        rw [List.length_singleton] at hlength
        omega
      · rename_i hcame
        rw [if_neg hcame]
        rw [List.length_nil] at hlength
        omega
    ends := by
      intro hkind
      have hcame : ¬ cameBack turns = true := fun hcame => by
        have := hs.kind_of_isReentry (hback.trans hcame) hp
        rw [hkind] at this
        cases this
      obtain ⟨i, hspans, henclosing⟩ :=
        h.enclosingLoops_of_closer (Template.directives_getElem? hp) hkind
      rw [if_neg hcame, List.append_nil, henclosing] at horigins
      have hreverse := congrArg List.reverse horigins
      rw [List.reverse_reverse, List.reverse_append, List.reverse_singleton,
        List.singleton_append] at hreverse
      obtain ⟨f, outer, hloops, rfl, -⟩ := List.map_eq_cons_iff.1 hreverse
      exact ⟨f, outer, hloops, hspans,
        fun hsteps => exists_leads_of_endLoop hp hkind hsteps hloops⟩ }

end Machine

/-- Whether an error is about where blocks begin and end. -/
def RenderError.IsAboutBlocks : RenderError → Prop
  | .unterminatedBlock _ _ | .unmatchedClose _ _ => True
  | _ => False

namespace Render

open Machine (Course InBlocks Reaches start)

/-- **In a well nested text the open loops mirror the blocks.**  Whenever a directive
is come to, the loops that are open are those that the text has around it, from the
outermost in, and the directive itself where it is a loop that has just been gone
back to; so the end of a loop acts on the loop that it ends.  The render fails with
an error about blocks only where it comes to a component that fails with it. -/
theorem loops_mirror_blocks (settings : Settings) (loader : Loader) (layer : Nat) {text : String}
    (h : WellNested text) (context : Context) :
    (∀ turns s p, Course (componentAt settings loader layer) layer (.ofText text)
        (start (.ofText text) context) turns s →
      (Template.ofText text).pieces[s.cursor]? = some p →
      InBlocks (componentAt settings loader layer) layer (.ofText text) turns s p.directive) ∧
    ∀ e x, e.IsAboutBlocks →
      (renderAt settings loader layer text context).outcome = (.error e, x) →
      ∃ last p name,
        Reaches (componentAt settings loader layer) layer (.ofText text)
          (start (.ofText text) context) last ∧
        (Template.ofText text).pieces[last.cursor]? = some p ∧
        p.directive.component? = some name ∧
        (componentAt settings loader layer name last.context).outcome = (.error e, x) := by
  have hnest : BlocksNest (Template.ofText text).directives := blocksNest_of_wellNested h
  refine ⟨fun turns s p hcourse hp => Machine.inBlocks_of_course hnest hcourse hp, ?_⟩
  intro e x he hfail
  rw [renderAt_eq_run] at hfail
  rcases exists_blames_of_run settings loader (max layer maxLayer + 1) hfail with
    ⟨i, d, hd, hblames⟩ | hcomponent
  · cases e with
    | unterminatedBlock keyword line =>
      obtain ⟨-, -, b, hkind, hnone | ⟨rfl, k, -, hhidden⟩⟩ := hblames
      · obtain ⟨k, -, hclose⟩ := hnest.closed b i d hd hkind
        exact (Option.some_ne_none k (hclose.symm.trans hnone)).elim
      · exact absurd hhidden (hnest.not_endHidden i k)
    | unmatchedClose keyword line =>
      obtain ⟨-, -, hkind, hnone | hhidden⟩ := hblames
      · obtain ⟨k, hspans⟩ := hnest.opened .loop i d hd hkind
        exact absurd hspans (hnone k)
      · exact absurd hhidden (hnest.not_startHidden i)
    | _ => exact he.elim
  · exact hcomponent

/-- The second directive of a loop, which includes a component that does not end what
it begins. -/
theorem loops_mirror_blocks_component :
    WellNested "[[ for:xs:x ]][[ component:c ]][[ endfor ]]" ∧
    ∃ s p,
      Course (componentAt {} (.ofSources [("components/c.html", "[[ if:x ]]")]) 0) 0
        (.ofText "[[ for:xs:x ]][[ component:c ]][[ endfor ]]")
        (start (.ofText "[[ for:xs:x ]][[ component:c ]][[ endfor ]]")
          ⟨[("xs", .sequence [.null])]⟩) [(0, .next)] s ∧
      s.loops.map (·.origin) = [0] ∧
      InBlocks (componentAt {} (.ofSources [("components/c.html", "[[ if:x ]]")]) 0) 0
        (.ofText "[[ for:xs:x ]][[ component:c ]][[ endfor ]]") [(0, .next)] s p ∧
      ∃ last p' name,
        Reaches (componentAt {} (.ofSources [("components/c.html", "[[ if:x ]]")]) 0) 0
          (.ofText "[[ for:xs:x ]][[ component:c ]][[ endfor ]]")
          (start (.ofText "[[ for:xs:x ]][[ component:c ]][[ endfor ]]")
            ⟨[("xs", .sequence [.null])]⟩) last ∧
        (Template.ofText "[[ for:xs:x ]][[ component:c ]][[ endfor ]]").pieces[last.cursor]? =
          some p' ∧
        p'.directive.component? = some name ∧
        (componentAt {} (.ofSources [("components/c.html", "[[ if:x ]]")]) 0 name
          last.context).outcome =
            (.error (.unterminatedBlock "if" 1),
              ⟨[("x", .null), ("xs", .sequence [.null])]⟩) := by
  have hnested : WellNested "[[ for:xs:x ]][[ component:c ]][[ endfor ]]" := by
    unfold WellNested
    decide +kernel
  obtain ⟨hblocks, herror⟩ := loops_mirror_blocks {}
    (.ofSources [("components/c.html", "[[ if:x ]]")]) 0 hnested ⟨[("xs", .sequence [.null])]⟩
  have hfail : (renderAt {} (.ofSources [("components/c.html", "[[ if:x ]]")]) 0
      "[[ for:xs:x ]][[ component:c ]][[ endfor ]]" ⟨[("xs", .sequence [.null])]⟩).outcome =
        (.error (.unterminatedBlock "if" 1), ⟨[("x", .null), ("xs", .sequence [.null])]⟩) := by
    cbv
  have hcourse : Course (componentAt {} (.ofSources [("components/c.html", "[[ if:x ]]")]) 0) 0
      (.ofText "[[ for:xs:x ]][[ component:c ]][[ endfor ]]")
      (start (.ofText "[[ for:xs:x ]][[ component:c ]][[ endfor ]]")
        ⟨[("xs", .sequence [.null])]⟩) ([] ++ [(0, .next)])
      ⟨1, 1, [⟨0, ⟨"for", ["xs", "x"], 0, 14, 1⟩, some "x", [.null], 0⟩], "",
        ⟨[("x", .null), ("xs", .sequence [.null])]⟩⟩ := by
    refine .turn (p := ⟨⟨"for", ["xs", "x"], 0, 14, 1⟩, []⟩) .start ?_ ?_
      ⟨[⟨0, .reached 0 .loop 1⟩, ⟨0, .bound 0 "x" .null⟩, ⟨0, .opened 0 1⟩], ?_⟩
    · decide +kernel
    · cbv
    · cbv
  have hp : (Template.ofText "[[ for:xs:x ]][[ component:c ]][[ endfor ]]").pieces[1]? =
      some ⟨⟨"component", ["c"], 14, 31, 1⟩, []⟩ := by decide +kernel
  exact ⟨hnested, _, _, hcourse, rfl, hblocks _ _ _ hcourse hp, herror _ _ trivial hfail⟩

end Render

end BracketTemplate
