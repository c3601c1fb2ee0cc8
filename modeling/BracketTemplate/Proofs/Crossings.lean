/-
# Loops and conditions that cross

Blocks of one kind nest: what is opened in a block is closed in it
(`close?_inner`), and what is closed in it was opened in it (`close?_outer`).
Blocks of two kinds may cross, and a condition that is left out takes along what
it holds of a loop:

| in the text | left out with the condition | what may come of it |
| --- | --- | --- |
| `for … if … endfor … endif` | the end of the loop (`EndHidden`) | a loop that stays open |
| `if … for … endif … endfor` | its beginning (`StartHidden`) | an end for a loop that is not open |

Nothing else parts the loops that are open from those that the cursor is in by
the text.  `Tracked` says so of one state, and every move keeps it
(`Tracked.of_leads`): a loop whose end the cursor has passed is closed unless an end
is hidden in it, and a loop that the cursor is in is open unless a beginning is
hidden in front of its end.
-/

import BracketTemplate.Proofs.Outcomes

namespace BracketTemplate

namespace Block

variable (b : Block)

/-- Whether a block reaches from a directive to another. -/
def Spans (ds : List Directive) (i k : Nat) : Prop :=
  (∃ d, ds[i]? = some d ∧ d.kind = b.opener) ∧ b.close? ds i = some k

variable {b}

/-- A block is no less a block behind another directive. -/
theorem Spans.cons {ds : List Directive} {i k : Nat} (h : b.Spans ds i k) (x : Directive) :
    b.Spans (x :: ds) (i + 1) (k + 1) := by
  obtain ⟨hopener, hclose⟩ := h
  refine ⟨hopener, ?_⟩
  obtain ⟨m, hm, rfl⟩ := Option.map_eq_some_iff.1 hclose
  exact Option.map_eq_some_iff.2 ⟨m, hm, rfl⟩

/-- Both ends of a block are where they should be. -/
theorem Spans.closer {ds : List Directive} {i k : Nat} (h : b.Spans ds i k) :
    i < k ∧ ∃ d, ds[k]? = some d ∧ d.kind = b.closer := b.exists_of_close? h.2

variable (b)

/-- With fewer openings waiting the closing is found earlier. -/
theorem closeFrom?_of_succ {waiting k : Nat} {ds : List Directive}
    (h : b.closeFrom? (waiting + 1) ds = some k) :
    ∃ m < k, b.closeFrom? waiting ds = some m := by
  induction ds generalizing waiting k with
  | nil => cases h
  | cons x rest ih =>
    by_cases ho : x.kind = b.opener
    · rw [closeFrom?_cons_opener b ho] at h ⊢
      obtain ⟨k, hk, rfl⟩ := Option.map_eq_some_iff.1 h
      obtain ⟨m, hm, hfound⟩ := ih hk
      exact ⟨m + 1, Nat.succ_lt_succ hm, by rw [hfound]; rfl⟩
    · by_cases hc : x.kind = b.closer
      · rw [closeFrom?_cons_closer b hc] at h
        obtain ⟨k, hk, rfl⟩ := Option.map_eq_some_iff.1 h
        cases waiting with
        | zero => exact ⟨0, Nat.succ_pos k, closeFrom?_cons_found b hc rest⟩
        | succ waiting =>
          obtain ⟨m, hm, hfound⟩ := ih hk
          exact ⟨m + 1, Nat.succ_lt_succ hm, by rw [closeFrom?_cons_closer b hc, hfound]; rfl⟩
      · rw [closeFrom?_cons_other b ho hc] at h ⊢
        obtain ⟨k, hk, rfl⟩ := Option.map_eq_some_iff.1 h
        obtain ⟨m, hm, hfound⟩ := ih hk
        exact ⟨m + 1, Nat.succ_lt_succ hm, by rw [hfound]; rfl⟩

/-- The search for the closing of the first of two openings meets that of the
second before. -/
theorem closeFrom?_zero_of_succ {waiting k : Nat} {ds : List Directive}
    (h : b.closeFrom? (waiting + 1) ds = some k) : ∃ m < k, b.closeFrom? 0 ds = some m := by
  induction waiting generalizing k with
  | zero => exact closeFrom?_of_succ b h
  | succ waiting ih =>
    obtain ⟨m, hm, hfound⟩ := closeFrom?_of_succ b h
    obtain ⟨m', hm', hfound'⟩ := ih hfound
    exact ⟨m', Nat.lt_trans hm' hm, hfound'⟩

/-- A search that does not end at the first directive goes on behind it. -/
theorem closeFrom?_cons_succ {waiting k : Nat} {x : Directive} {rest : List Directive}
    (h : b.closeFrom? waiting (x :: rest) = some (k + 1)) :
    ∃ w, b.closeFrom? w rest = some k ∧
      (x.kind = b.opener ∧ w = waiting + 1 ∨ x.kind = b.closer ∧ waiting = w + 1 ∨
        x.kind ≠ b.opener ∧ x.kind ≠ b.closer ∧ w = waiting) := by
  have hback : ∀ w, (b.closeFrom? w rest).map (· + 1) = some (k + 1) →
      b.closeFrom? w rest = some k := by
    intro w hw
    obtain ⟨m, hm, heq⟩ := Option.map_eq_some_iff.1 hw
    rw [hm, Nat.succ.inj heq]
  by_cases ho : x.kind = b.opener
  · rw [closeFrom?_cons_opener b ho] at h
    exact ⟨_, hback _ h, .inl ⟨ho, rfl⟩⟩
  · by_cases hc : x.kind = b.closer
    · cases waiting with
      | zero =>
        rw [closeFrom?_cons_found b hc] at h
        cases h
      | succ waiting =>
        rw [closeFrom?_cons_closer b hc] at h
        exact ⟨_, hback _ h, .inr (.inl ⟨hc, rfl⟩)⟩
    · rw [closeFrom?_cons_other b ho hc] at h
      exact ⟨_, hback _ h, .inr (.inr ⟨ho, hc, rfl⟩)⟩

/-- An opening that a search passes over is closed before the search ends. -/
theorem spans_of_closeFrom? {waiting j k : Nat} {ds : List Directive} {d : Directive}
    (h : b.closeFrom? waiting ds = some k) (hjk : j < k) (hd : ds[j]? = some d)
    (ho : d.kind = b.opener) : ∃ m < k, b.Spans ds j m := by
  induction ds generalizing waiting j k with
  | nil => cases hd
  | cons x rest ih =>
    obtain ⟨k, rfl⟩ : ∃ k', k = k' + 1 := ⟨k - 1, by omega⟩
    obtain ⟨w, hw, hpassed⟩ := closeFrom?_cons_succ b h
    cases j with
    | zero =>
      obtain rfl : x = d := Option.some.inj hd
      obtain ⟨-, rfl⟩ : x.kind = b.opener ∧ w = waiting + 1 := by
        rcases hpassed with hpassed | ⟨hc, -⟩ | ⟨hne, -⟩
        · exact hpassed
        · exact absurd (ho.symm.trans hc) b.opener_ne_closer
        · exact absurd ho hne
      obtain ⟨m, hm, hfound⟩ := closeFrom?_zero_of_succ b hw
      exact ⟨m + 1, Nat.succ_lt_succ hm, ⟨x, rfl, ho⟩,
        Option.map_eq_some_iff.2 ⟨m, hfound, rfl⟩⟩
    | succ j =>
      obtain ⟨m, hm, hspans⟩ := ih hw (Nat.lt_of_succ_lt_succ hjk) hd
      exact ⟨m + 1, Nat.succ_lt_succ hm, hspans.cons x⟩

/-- A closing that a search passes over closes an opening that it has passed, or
one of those that waited. -/
theorem spans_or_of_closeFrom? {waiting c k : Nat} {ds : List Directive} {d : Directive}
    (h : b.closeFrom? waiting ds = some k) (hck : c < k) (hd : ds[c]? = some d)
    (hc : d.kind = b.closer) :
    (∃ j, b.Spans ds j c) ∨ ∃ w < waiting, b.closeFrom? w ds = some c := by
  induction ds generalizing waiting c k with
  | nil => cases hd
  | cons x rest ih =>
    obtain ⟨k, rfl⟩ : ∃ k', k = k' + 1 := ⟨k - 1, by omega⟩
    obtain ⟨w, hw, hpassed⟩ := closeFrom?_cons_succ b h
    cases c with
    | zero =>
      obtain rfl : x = d := Option.some.inj hd
      obtain ⟨-, rfl⟩ : x.kind = b.closer ∧ waiting = w + 1 := by
        rcases hpassed with ⟨ho, -⟩ | hpassed | ⟨-, hne, -⟩
        · exact absurd (ho.symm.trans hc) b.opener_ne_closer
        · exact hpassed
        · exact absurd hc hne
      exact .inr ⟨0, Nat.succ_pos w, closeFrom?_cons_found b hc rest⟩
    | succ c =>
      rcases ih hw (Nat.lt_of_succ_lt_succ hck) hd with ⟨j, hspans⟩ | ⟨w', hw', hfound⟩
      · exact .inl ⟨j + 1, hspans.cons x⟩
      · rcases hpassed with ⟨hx, rfl⟩ | ⟨hx, rfl⟩ | ⟨hxo, hxc, rfl⟩
        · cases w' with
          -- none waits in front of `x`, which is the one that is closed
          | zero =>
            exact .inl ⟨0, ⟨x, rfl, hx⟩, Option.map_eq_some_iff.2 ⟨c, hfound, rfl⟩⟩
          | succ w' =>
            refine .inr ⟨w', Nat.lt_of_succ_lt_succ hw', ?_⟩
            rw [closeFrom?_cons_opener b hx, hfound]
            rfl
        · refine .inr ⟨w' + 1, Nat.succ_lt_succ hw', ?_⟩
          rw [closeFrom?_cons_closer b hx, hfound]
          rfl
        · refine .inr ⟨w', hw', ?_⟩
          rw [closeFrom?_cons_other b hxo hxc, hfound]
          rfl

/-- A block behind the first directives of a list is one of the list. -/
theorem spans_of_drop {ds : List Directive} {n i k : Nat} (h : b.Spans (ds.drop n) i k) :
    b.Spans ds (n + i) (n + k) := by
  obtain ⟨⟨d, hd, ho⟩, hclose⟩ := h
  rw [List.getElem?_drop] at hd
  refine ⟨⟨d, hd, ho⟩, ?_⟩
  obtain ⟨m, hm, rfl⟩ := Option.map_eq_some_iff.1 hclose
  rw [List.drop_drop] at hm
  exact Option.map_eq_some_iff.2 ⟨m, hm, by omega⟩

variable {b}

/-- **What is opened in a block is closed in it.** -/
theorem close?_inner {ds : List Directive} {i j k : Nat} {d : Directive}
    (h : b.close? ds i = some k) (hij : i < j) (hjk : j < k) (hd : ds[j]? = some d)
    (ho : d.kind = b.opener) : ∃ m < k, b.Spans ds j m := by
  obtain ⟨k, hk, rfl⟩ := Option.map_eq_some_iff.1 h
  obtain ⟨j, rfl⟩ := Nat.exists_eq_add_of_lt hij
  obtain ⟨m, hm, hspans⟩ := spans_of_closeFrom? b (j := j) hk (by omega)
    (by rw [List.getElem?_drop, ← hd]; congr 1; omega) ho
  have hback := spans_of_drop b hspans
  rw [show i + 1 + j = i + j + 1 by omega] at hback
  exact ⟨_, by omega, hback⟩

/-- **What is closed in a block was opened in it.** -/
theorem close?_outer {ds : List Directive} {i c k : Nat} {d : Directive}
    (h : b.close? ds i = some k) (hic : i < c) (hck : c < k) (hd : ds[c]? = some d)
    (hc : d.kind = b.closer) : ∃ j, i < j ∧ b.Spans ds j c := by
  obtain ⟨k, hk, rfl⟩ := Option.map_eq_some_iff.1 h
  obtain ⟨c, rfl⟩ := Nat.exists_eq_add_of_lt hic
  obtain ⟨j, hspans⟩ | ⟨w, hw, -⟩ := spans_or_of_closeFrom? b (c := c) hk (by omega)
    (by rw [List.getElem?_drop, ← hd]; congr 1; omega) hc
  · have hback := spans_of_drop b hspans
    rw [show i + 1 + c = i + c + 1 by omega] at hback
    exact ⟨_, by omega, hback⟩
  · exact absurd hw (Nat.not_lt_zero w)

/-- A directive begins one block at most. -/
theorem Spans.eq_of_opener {b' : Block} {ds : List Directive} {i k m : Nat}
    (h : b.Spans ds i k) (h' : b'.Spans ds i m) : b = b' := by
  obtain ⟨⟨d, hd, ho⟩, -⟩ := h
  obtain ⟨⟨d', hd', ho'⟩, -⟩ := h'
  obtain rfl : d = d' := Option.some.inj (hd.symm.trans hd')
  by_contra hne
  exact (kinds_ne b' hne).1 (ho.symm.trans ho')

/-- It ends one block at most. -/
theorem Spans.eq_of_closer {b' : Block} {ds : List Directive} {i j k : Nat}
    (h : b.Spans ds i k) (h' : b'.Spans ds j k) : b = b' := by
  obtain ⟨-, d, hd, hc⟩ := h.closer
  obtain ⟨-, d', hd', hc'⟩ := h'.closer
  obtain rfl : d = d' := Option.some.inj (hd.symm.trans hd')
  by_contra hne
  exact (kinds_ne b' hne).2.2.2 (hc.symm.trans hc')

/-- It does not begin one and end another. -/
theorem Spans.opener_ne_closer {b' : Block} {ds : List Directive} {i j k m : Nat}
    (h : b.Spans ds i k) (h' : b'.Spans ds j m) : i ≠ m := by
  rintro rfl
  obtain ⟨⟨d, hd, ho⟩, -⟩ := h
  obtain ⟨-, d', hd', hc'⟩ := h'.closer
  obtain rfl : d = d' := Option.some.inj (hd.symm.trans hd')
  by_cases hb : b = b'
  · subst hb
    exact b.opener_ne_closer (ho.symm.trans hc')
  · exact (kinds_ne b' hb).2.1 (ho.symm.trans hc')

/-- Whether a loop between two places holds the beginning, and not the end, of a
condition: its own end is hidden when the condition is left out. -/
def EndHidden (ds : List Directive) (o c : Nat) : Prop :=
  ∃ i k j m, o ≤ i ∧ k ≤ c ∧ loop.Spans ds i k ∧ condition.Spans ds j m ∧ i < j ∧ j < k ∧ k < m

/-- Whether a loop that ends no later than a place holds the end, and not the
beginning, of a condition: its own beginning is hidden when the condition is left
out. -/
def StartHidden (ds : List Directive) (c : Nat) : Prop :=
  ∃ i k j m, k ≤ c ∧ loop.Spans ds i k ∧ condition.Spans ds j m ∧ j < i ∧ i < m ∧ m < k

/-- What is hidden in a part is hidden in the whole. -/
theorem EndHidden.mono {ds : List Directive} {o o' c c' : Nat} (h : EndHidden ds o c)
    (ho : o' ≤ o) (hc : c ≤ c') : EndHidden ds o' c' := by
  obtain ⟨i, k, j, m, hi, hk, hhidden⟩ := h
  exact ⟨i, k, j, m, Nat.le_trans ho hi, Nat.le_trans hk hc, hhidden⟩

theorem StartHidden.mono {ds : List Directive} {c c' : Nat} (h : StartHidden ds c)
    (hc : c ≤ c') : StartHidden ds c' := by
  obtain ⟨i, k, j, m, hk, hhidden⟩ := h
  exact ⟨i, k, j, m, Nat.le_trans hk hc, hhidden⟩

/-- A block that begins in a loop and takes along its end hides it. -/
theorem Spans.endHidden {ds : List Directive} {o k c m : Nat} (h : loop.Spans ds o k)
    (hb : b.Spans ds c m) (hoc : o < c) (hck : c < k) (hkm : k ≤ m) : EndHidden ds o k := by
  cases b with
  | loop =>
    -- loops nest
    obtain ⟨⟨d, hd, ho⟩, hclose⟩ := hb
    obtain ⟨m', hm', hinner⟩ := close?_inner h.2 hoc hck hd ho
    have : m' = m := Option.some.inj (hinner.2.symm.trans hclose)
    omega
  | condition =>
    have hne : k ≠ m := by
      rintro rfl
      cases h.eq_of_closer hb
    exact ⟨o, k, c, m, Nat.le_refl o, Nat.le_refl k, h, hb, hoc, hck, by omega⟩

/-- A block that ends in a loop and takes along its beginning hides that. -/
theorem Spans.startHidden {ds : List Directive} {i k c m : Nat} (h : loop.Spans ds i k)
    (hb : b.Spans ds c m) (hci : c < i) (him : i ≤ m) (hmk : m < k) : StartHidden ds k := by
  have hne := h.opener_ne_closer hb
  cases b with
  | loop =>
    obtain ⟨⟨d, hd, ho⟩, hclose⟩ := h
    obtain ⟨k', hk', hinner⟩ := close?_inner hb.2 hci (by omega) hd ho
    have : k' = k := Option.some.inj (hinner.2.symm.trans hclose)
    omega
  | condition => exact ⟨i, k, c, m, Nat.le_refl k, h, hb, hci, by omega, hmk⟩

end Block

/-- The directives are those of the pieces. -/
theorem Template.directives_getElem? {t : Template} {i : Nat} {p : Piece}
    (h : t.pieces[i]? = some p) : t.directives[i]? = some p.directive := by
  rw [directives, List.getElem?_map, h]
  rfl

namespace Machine

open Block (EndHidden StartHidden)

/-- What parts the open loops of a state from the loops of the text. -/
structure Tracked (ds : List Directive) (s : State) : Prop where
  /-- An open loop whose end has been passed hides an end. -/
  passed : ∀ f ∈ s.loops, ∀ k, Block.loop.close? ds f.origin = some k → k < s.cursor →
    EndHidden ds f.origin k
  /-- A loop that the cursor is in is open, unless a beginning is hidden. -/
  inside : ∀ i k, Block.loop.Spans ds i k → i < s.cursor → s.cursor ≤ k →
    (∃ f ∈ s.loops, f.origin = i) ∨ StartHidden ds k
  /-- So is a loop that an open one begins in. -/
  around : ∀ f ∈ s.loops, ∀ i k, Block.loop.Spans ds i k → i < f.origin → f.origin ≤ k →
    (∃ g ∈ s.loops, g.origin = i) ∨ StartHidden ds k

variable {inclusion : Inclusion} {layer : Nat} {t : Template} {s s' : State} {p : Piece}

/-- A render starts with no loop open and the cursor in none. -/
theorem tracked_start (t : Template) (context : Context) :
    Tracked t.directives (start t context) where
  passed := fun _ hf => absurd hf List.not_mem_nil
  inside := fun _ _ _ hi => absurd hi (Nat.not_lt_zero _)
  around := fun _ hf => absurd hf List.not_mem_nil

/-- A loop that is gone back to is passed. -/
theorem eq_advance_of_isReentry (hlead : Leads inclusion layer t s s')
    (hp : t.pieces[s.cursor]? = some p) (hkind : p.directive.kind = .loop)
    (hentry : s.isReentry = true) : s' = advance t s s.cursor := by
  obtain ⟨events, hgo⟩ := hlead
  obtain ⟨q, flow, hq, -, hflow, rfl⟩ := flow_of_go hgo
  obtain rfl : p = q := Option.some.inj (hp.symm.trans hq)
  unfold dispatch at hflow ⊢
  simp only [hkind, hentry, if_true] at hflow ⊢
  rw [← Except.ok.inj hflow]
  rfl

/-- A block that begins at the cursor is of the kind of the directive there. -/
theorem spans_cursor_kind {b : Block} {k : Nat} (hp : t.pieces[s.cursor]? = some p)
    (h : b.Spans t.directives s.cursor k) : p.directive.kind = b.opener := by
  obtain ⟨⟨d, hd, ho⟩, -⟩ := h
  rw [Template.directives_getElem? hp] at hd
  rwa [Option.some.inj hd]

/-- So is a block that ends there. -/
theorem close?_cursor_kind {b : Block} {i : Nat} (hp : t.pieces[s.cursor]? = some p)
    (h : b.close? t.directives i = some s.cursor) : p.directive.kind = b.closer := by
  obtain ⟨-, d, hd, hc⟩ := b.exists_of_close? h
  rw [Template.directives_getElem? hp] at hd
  rwa [Option.some.inj hd]

/-- An open loop that the text has an end for is one of its blocks. -/
theorem Sound.spans (hs : Sound t s) {f : Frame} (hf : f ∈ s.loops) {k : Nat}
    (hk : Block.loop.close? t.directives f.origin = some k) :
    Block.loop.Spans t.directives f.origin k := by
  obtain ⟨q, hq, hopener, -⟩ := hs.opener f hf
  exact ⟨⟨_, Template.directives_getElem? hq, hopener⟩, hk⟩

/-- The open loops are tracked past a directive that does not end a loop. -/
theorem Tracked.pass (h : Tracked t.directives s) (hp : t.pieces[s.cursor]? = some p)
    (hkind : p.directive.kind ≠ .endLoop)
    (hloop : p.directive.kind = .loop → s.isReentry = true) (hloops : s'.loops = s.loops)
    (hcursor : s'.cursor = s.cursor + 1) : Tracked t.directives s' where
  passed := by
    rw [hloops, hcursor]
    intro f hf k hk hlt
    rcases Nat.lt_succ_iff_lt_or_eq.1 hlt with hlt | rfl
    · exact h.passed f hf k hk hlt
    · exact absurd (close?_cursor_kind hp hk) hkind
  inside := by
    rw [hloops, hcursor]
    intro i k hspans hi hk
    rcases Nat.lt_succ_iff_lt_or_eq.1 hi with hi | rfl
    · exact h.inside i k hspans hi (Nat.le_of_lt hk)
    · obtain ⟨f, outer, hloops, horigin⟩ :=
        isReentry_iff.1 (hloop (spans_cursor_kind hp hspans))
      exact .inl ⟨f, by rw [hloops]; exact List.mem_cons_self, horigin⟩
  around := by
    rw [hloops]
    exact h.around

/-- They are tracked past a block that is left out.  A condition may take along
the end of a loop around its beginning, and the beginning of one around its end. -/
theorem Tracked.skip (hs : Sound t s) (h : Tracked t.directives s)
    (hp : t.pieces[s.cursor]? = some p) {b : Block} {m : Nat}
    (hkind : p.directive.kind = b.opener) (hclose : b.close? t.directives s.cursor = some m)
    (hentry : p.directive.kind = .loop → s.isReentry = false) (hloops : s'.loops = s.loops)
    (hcursor : s'.cursor = m + 1) : Tracked t.directives s' := by
  have hskipped : b.Spans t.directives s.cursor m :=
    ⟨⟨_, Template.directives_getElem? hp, hkind⟩, hclose⟩
  refine ⟨?_, ?_, by rw [hloops]; exact h.around⟩
  · rw [hloops, hcursor]
    intro f hf k hk hkm
    rcases Nat.lt_or_ge k s.cursor with hpassed | hpassed
    · exact h.passed f hf k hk hpassed
    have hspans := hs.spans hf hk
    have horigin : f.origin < s.cursor := by
      rcases Nat.lt_or_eq_of_le (hs.origin_le f hf) with hlt | heq
      · exact hlt
      · rw [heq] at hspans
        exact hs.origin_lt hf (hentry (hkind.trans (congrArg _ (hskipped.eq_of_opener hspans))))
    have hne := hskipped.opener_ne_closer hspans
    exact hspans.endHidden hskipped horigin (by omega) (by omega)
  · rw [hloops, hcursor]
    intro i k hspans hi hk
    rcases Nat.lt_trichotomy i s.cursor with hbefore | rfl | hbehind
    · have := hskipped.closer.1
      exact h.inside i k hspans hbefore (by omega)
    · obtain rfl := hspans.eq_of_opener hskipped
      have : k = m := Option.some.inj (hspans.2.symm.trans hclose)
      omega
    · exact .inr (hspans.startHidden hskipped hbehind (by omega) hk)

/-- They are tracked into a loop. -/
theorem Tracked.enter (h : Tracked t.directives s) (hp : t.pieces[s.cursor]? = some p)
    (hkind : p.directive.kind = .loop) {f : Frame} (horigin : f.origin = s.cursor)
    (hloops : s'.loops = f :: s.loops) (hcursor : s'.cursor = s.cursor + 1) :
    Tracked t.directives s' := by
  have hkeep : ∀ i k, (∃ g ∈ s.loops, g.origin = i) ∨ StartHidden t.directives k →
      (∃ g ∈ f :: s.loops, g.origin = i) ∨ StartHidden t.directives k := by
    rintro i k (⟨g, hg, hi⟩ | hhidden)
    · exact .inl ⟨g, List.mem_cons_of_mem f hg, hi⟩
    · exact .inr hhidden
  refine ⟨?_, ?_, ?_⟩
  · rw [hloops, hcursor]
    intro g hg k hk hlt
    have hne : k ≠ s.cursor := by
      rintro rfl
      have := (close?_cursor_kind hp hk).symm.trans hkind
      cases this
    rcases List.mem_cons.1 hg with rfl | hg
    · have := (Block.loop.exists_of_close? hk).1
      omega
    · exact h.passed g hg k hk (by omega)
  · rw [hloops, hcursor]
    intro i k hspans hi hk
    rcases Nat.lt_succ_iff_lt_or_eq.1 hi with hi | rfl
    · exact hkeep i k (h.inside i k hspans hi (Nat.le_of_lt hk))
    · exact .inl ⟨f, List.mem_cons_self, horigin⟩
  · rw [hloops]
    intro g hg i k hspans hi hk
    rcases List.mem_cons.1 hg with rfl | hg
    · rw [horigin] at hi hk
      exact hkeep i k (h.inside i k hspans hi hk)
    · exact hkeep i k (h.around g hg i k hspans hi hk)

/-- They are tracked back to the innermost loop. -/
theorem Tracked.turnBack (hs : Sound t s) (h : Tracked t.directives s) {f f' : Frame}
    {outer : List Frame} (hs' : s.loops = f :: outer) (horigin : f'.origin = f.origin)
    (hloops : s'.loops = f' :: outer) (hcursor : s'.cursor = f.origin) :
    Tracked t.directives s' := by
  have hf : f ∈ s.loops := by rw [hs']; exact List.mem_cons_self
  -- the open loops begin where they began before
  have hmem : ∀ g ∈ f' :: outer, ∃ g₀ ∈ s.loops, g₀.origin = g.origin := by
    rw [hs']
    intro g hg
    rcases List.mem_cons.1 hg with rfl | hg
    · exact ⟨f, List.mem_cons_self, horigin.symm⟩
    · exact ⟨g, List.mem_cons_of_mem f hg, rfl⟩
  have hkeep : ∀ i k, (∃ g ∈ s.loops, g.origin = i) ∨ StartHidden t.directives k →
      (∃ g ∈ f' :: outer, g.origin = i) ∨ StartHidden t.directives k := by
    rw [hs']
    rintro i k (⟨g, hg, hi⟩ | hhidden)
    · rcases List.mem_cons.1 hg with rfl | hg
      · exact .inl ⟨f', List.mem_cons_self, horigin.trans hi⟩
      · exact .inl ⟨g, List.mem_cons_of_mem f' hg, hi⟩
    · exact .inr hhidden
  have hback := hs.origin_le f hf
  refine ⟨?_, ?_, ?_⟩
  · rw [hloops, hcursor]
    intro g hg k hk hlt
    obtain ⟨g₀, hg₀, heq⟩ := hmem g hg
    rw [← heq] at hk ⊢
    exact h.passed g₀ hg₀ k hk (by omega)
  · rw [hloops, hcursor]
    intro i k hspans hi hk
    exact hkeep i k (h.around f hf i k hspans hi hk)
  · rw [hloops]
    intro g hg i k hspans hi hk
    obtain ⟨g₀, hg₀, heq⟩ := hmem g hg
    rw [← heq] at hi hk
    exact hkeep i k (h.around g₀ hg₀ i k hspans hi hk)

/-- They are tracked out of the innermost loop. -/
theorem Tracked.leave (hs : Sound t s) (h : Tracked t.directives s)
    (hp : t.pieces[s.cursor]? = some p) (hkind : p.directive.kind = .endLoop) {f : Frame}
    {outer : List Frame} (hs' : s.loops = f :: outer) (hloops : s'.loops = outer)
    (hcursor : s'.cursor = s.cursor + 1) : Tracked t.directives s' := by
  have hd := Template.directives_getElem? hp
  have hf : f ∈ s.loops := by rw [hs']; exact List.mem_cons_self
  have houter : ∀ g ∈ outer, g ∈ s.loops := fun g hg => by
    rw [hs']; exact List.mem_cons_of_mem f hg
  have hordered := hs.ordered
  rw [hs'] at hordered
  obtain ⟨hbelow, -⟩ := List.pairwise_cons.1 hordered
  have hle : ∀ g ∈ s.loops, g.origin ≤ f.origin := by
    rw [hs']
    intro g hg
    rcases List.mem_cons.1 hg with rfl | hg
    · exact Nat.le_refl _
    · exact Nat.le_of_lt (hbelow g hg)
  have hcursor_le := hs.origin_le f hf
  refine ⟨?_, ?_, ?_⟩
  · rw [hloops, hcursor]
    intro g hg k hk hlt
    rcases Nat.lt_succ_iff_lt_or_eq.1 hlt with hlt | rfl
    · exact h.passed g (houter g hg) k hk hlt
    -- the loop that is left was opened in `g` and should have ended before
    obtain ⟨q, hq, hopener, -⟩ := hs.opener f hf
    have hne : f.origin ≠ s.cursor := by
      intro heq
      rw [heq, hp] at hq
      rw [Option.some.inj hq, hopener] at hkind
      cases hkind
    obtain ⟨m, hm, hspans⟩ := Block.close?_inner hk (hbelow g hg) (by omega)
      (Template.directives_getElem? hq) hopener
    exact (h.passed f hf m hspans.2 hm).mono (Nat.le_of_lt (hbelow g hg)) (Nat.le_of_lt hm)
  · rw [hloops, hcursor]
    intro i k hspans hi hk
    have hne : i ≠ s.cursor := by
      rintro rfl
      have := (spans_cursor_kind hp hspans).symm.trans hkind
      cases this
    rcases h.inside i k hspans (by omega) (by omega) with ⟨g, hg, rfl⟩ | hhidden
    · rw [hs'] at hg
      rcases List.mem_cons.1 hg with rfl | hg
      · -- the loop that is left should have ended later, so this end is another's
        obtain ⟨j, hj, hother⟩ := Block.close?_outer hspans.2 (by omega) hk hd hkind
        rcases h.inside j s.cursor hother hother.closer.1 (Nat.le_refl _) with
          ⟨g', hg', rfl⟩ | hhidden
        · have := hle g' hg'
          omega
        · exact .inr (hhidden.mono (by omega))
      · exact .inl ⟨g, hg, rfl⟩
    · exact .inr hhidden
  · rw [hloops]
    intro g hg i k hspans hi hk
    rcases h.around g (houter g hg) i k hspans hi hk with ⟨g', hg', rfl⟩ | hhidden
    · rw [hs'] at hg'
      rcases List.mem_cons.1 hg' with rfl | hg'
      · have := hbelow g hg
        omega
      · exact .inl ⟨g', hg', rfl⟩
    · exact .inr hhidden

/-- **Every turn keeps the open loops tracked.** -/
theorem Tracked.of_leads (hs : Sound t s) (h : Tracked t.directives s)
    (hlead : Leads inclusion layer t s s') : Tracked t.directives s' := by
  obtain ⟨events, hgo⟩ := hlead
  obtain ⟨p, hp, -, hmove⟩ := move_of_turn hgo
  cases hmove with
  | pass text context hkind hloop _ => exact h.pass hp hkind hloop rfl rfl
  | skip b m hkind hclose =>
    refine h.skip hs hp hkind hclose (fun hloop => ?_) rfl rfl
    refine Bool.eq_false_iff.2 fun hentry => ?_
    have heq := congrArg State.cursor (eq_advance_of_isReentry ⟨events, hgo⟩ hp hloop hentry)
    have hlt := (b.exists_of_close? hclose).1
    rw [advance_cursor, advance_cursor] at heq
    omega
  | enter binding? k first rest hkind _ _ => exact h.enter hp hkind rfl rfl rfl
  | turnBack f outer item _ hloops _ =>
    have horigin : Frame.origin { f with current := f.current + 1 } = f.origin := rfl
    exact h.turnBack hs hloops horigin rfl rfl
  | leave f outer hkind hloops _ => exact h.leave hs hp hkind hloops rfl rfl

/-- The states of a render are sound and tracked. -/
theorem sound_and_tracked_of_reaches {context : Context}
    (h : Reaches inclusion layer t (start t context) s) :
    Sound t s ∧ Tracked t.directives s := by
  induction h with
  | refl => exact ⟨sound_start t context, tracked_start t context⟩
  | tail _ hlead ih =>
    obtain ⟨hs, htracked⟩ := ih
    refine ⟨?_, htracked.of_leads hs hlead⟩
    obtain ⟨events, hgo⟩ := hlead
    obtain ⟨p, hp, -, hmove⟩ := move_of_turn hgo
    exact hs.move hp hmove

/-- **A loop is open at the end of a render for one of two reasons**: the text has
no end for it, or an end is hidden in it. -/
theorem Tracked.unterminated (h : Tracked t.directives s)
    (hend : t.pieces[s.cursor]? = none) {f : Frame} (hf : f ∈ s.loops) :
    Block.loop.close? t.directives f.origin = none ∨
      ∃ k, Block.loop.close? t.directives f.origin = some k ∧
        EndHidden t.directives f.origin k := by
  cases hclose : Block.loop.close? t.directives f.origin with
  | none => exact .inl rfl
  | some k =>
    obtain ⟨-, d, hd, -⟩ := Block.loop.exists_of_close? hclose
    obtain ⟨hlen, -⟩ := List.getElem?_eq_some_iff.1 hd
    rw [Template.length_directives] at hlen
    have := List.getElem?_eq_none_iff.1 hend
    exact .inr ⟨k, rfl, h.passed f hf k hclose (by omega)⟩

/-- **The end of a loop is come to with no loop open for one of two reasons**: it
ends none in the text, or a beginning is hidden in front of it. -/
theorem Tracked.unmatched (h : Tracked t.directives s) (hloops : s.loops = []) :
    (∀ i, ¬ Block.loop.Spans t.directives i s.cursor) ∨
      StartHidden t.directives s.cursor := by
  by_cases hspans : ∃ i, Block.loop.Spans t.directives i s.cursor
  · obtain ⟨i, hspans⟩ := hspans
    rcases h.inside i s.cursor hspans hspans.closer.1 (Nat.le_refl _) with ⟨f, hf, -⟩ | hhidden
    · rw [hloops] at hf
      exact absurd hf List.not_mem_nil
    · exact .inr hhidden
  · exact .inl (not_exists.1 hspans)

end Machine

end BracketTemplate
