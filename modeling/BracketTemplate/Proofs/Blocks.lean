/-
# Where blocks are closed

`Block.closeFrom?` counts the openings that wait for their closing.  Over a list
cut in two it is a search in the first part and, if nothing is found there, one
in the second part with the openings that the first part leaves waiting
(`closeFrom?_append`).  So what is found in a part is found in the whole
(`close?_append_right`), and a part that leaves as many waiting as it met is seen
through: the search goes on behind it as if it were not there.

Such a part is balanced (`Balanced`): no beginning of it has more closings than
openings, and all of it has equally many (`closeFrom?_of_balanced`).  The search
depends only on which directives open and which close (`closeFrom?_congr`).
-/

import BracketTemplate.Block
import Mathlib

namespace BracketTemplate

namespace Block

/-- The openings that wait after a list in which the sought closing is not. -/
def waitingAfter (b : Block) : (waiting : Nat) → List Directive → Nat
  | waiting, [] => waiting
  | waiting, d :: rest =>
    if d.kind = b.opener then b.waitingAfter (waiting + 1) rest
    else if d.kind = b.closer then b.waitingAfter (waiting - 1) rest
    else b.waitingAfter waiting rest

/-- The number of directives that open a block of the kind. -/
def opens (b : Block) (ds : List Directive) : Nat := ds.countP fun d => d.kind = b.opener

/-- The number of directives that close a block of the kind. -/
def closes (b : Block) (ds : List Directive) : Nat := ds.countP fun d => d.kind = b.closer

/-- Whether the openings and closings of one kind pair up: no beginning of the
list closes more than it opens, and the whole closes as many. -/
def Balanced (b : Block) (ds : List Directive) : Prop :=
  (∀ n, b.closes (ds.take n) ≤ b.opens (ds.take n)) ∧ b.closes ds = b.opens ds

variable (b : Block)

theorem opener_ne_component : b.opener ≠ .component := by cases b <;> decide

theorem closer_ne_component : b.closer ≠ .component := by cases b <;> decide

/-- The kinds of blocks share no directive. -/
theorem kinds_ne {b' : Block} (h : b' ≠ b) :
    b'.opener ≠ b.opener ∧ b'.opener ≠ b.closer ∧ b'.closer ≠ b.opener ∧
      b'.closer ≠ b.closer := by
  cases b <;> cases b' <;> first | exact absurd rfl h | decide

theorem opener_inj {b' : Block} : b'.opener = b.opener ↔ b' = b := by
  cases b <;> cases b' <;> decide

theorem closer_inj {b' : Block} : b'.closer = b.closer ↔ b' = b := by
  cases b <;> cases b' <;> decide

/-- An opening closes no block, of whatever kind. -/
theorem opener_ne_closer_of (b' : Block) : b'.opener ≠ b.closer := by
  cases b <;> cases b' <;> decide

theorem opens_cons (d : Directive) (ds : List Directive) :
    b.opens (d :: ds) = b.opens ds + if d.kind = b.opener then 1 else 0 := by
  simp [opens, List.countP_cons]

theorem closes_cons (d : Directive) (ds : List Directive) :
    b.closes (d :: ds) = b.closes ds + if d.kind = b.closer then 1 else 0 := by
  simp [closes, List.countP_cons]

theorem opens_concat (ds : List Directive) (d : Directive) :
    b.opens (ds ++ [d]) = b.opens ds + if d.kind = b.opener then 1 else 0 := by
  simp [opens, List.countP_append, List.countP_singleton]

theorem closes_concat (ds : List Directive) (d : Directive) :
    b.closes (ds ++ [d]) = b.closes ds + if d.kind = b.closer then 1 else 0 := by
  simp [closes, List.countP_append, List.countP_singleton]

/-- The search passes over a directive according to its kind. -/
theorem closeFrom?_cons_opener {d : Directive} (h : d.kind = b.opener) (waiting : Nat)
    (rest : List Directive) :
    b.closeFrom? waiting (d :: rest) = (b.closeFrom? (waiting + 1) rest).map (· + 1) := by
  rw [closeFrom?.eq_def]
  exact if_pos h

theorem closeFrom?_cons_closer {d : Directive} (h : d.kind = b.closer) (waiting : Nat)
    (rest : List Directive) :
    b.closeFrom? (waiting + 1) (d :: rest) = (b.closeFrom? waiting rest).map (· + 1) := by
  have hne : d.kind ≠ b.opener := fun ho => b.opener_ne_closer (ho.symm.trans h)
  rw [closeFrom?, if_neg hne, if_pos h]

theorem closeFrom?_cons_found {d : Directive} (h : d.kind = b.closer) (rest : List Directive) :
    b.closeFrom? 0 (d :: rest) = some 0 := by
  have hne : d.kind ≠ b.opener := fun ho => b.opener_ne_closer (ho.symm.trans h)
  rw [closeFrom?, if_neg hne, if_pos h]

theorem closeFrom?_cons_other {d : Directive} (ho : d.kind ≠ b.opener) (hc : d.kind ≠ b.closer)
    (waiting : Nat) (rest : List Directive) :
    b.closeFrom? waiting (d :: rest) = (b.closeFrom? waiting rest).map (· + 1) := by
  rw [closeFrom?.eq_def]
  exact (if_neg ho).trans (if_neg hc)

/-- **A search over two parts.** -/
theorem closeFrom?_append (waiting : Nat) (xs ys : List Directive) :
    b.closeFrom? waiting (xs ++ ys) =
      (b.closeFrom? waiting xs).or
        ((b.closeFrom? (b.waitingAfter waiting xs) ys).map (· + xs.length)) := by
  induction xs generalizing waiting with
  | nil => simp [closeFrom?, waitingAfter]
  | cons d rest ih =>
    have hmap : ∀ w, ((b.closeFrom? w rest).or
        ((b.closeFrom? (b.waitingAfter w rest) ys).map (· + rest.length))).map (· + 1) =
        ((b.closeFrom? w rest).map (· + 1)).or
          ((b.closeFrom? (b.waitingAfter w rest) ys).map (· + (d :: rest).length)) := by
      intro w
      rw [Option.map_or, Option.map_map]
      rfl
    rw [List.cons_append, waitingAfter]
    by_cases ho : d.kind = b.opener
    · rw [closeFrom?_cons_opener b ho, closeFrom?_cons_opener b ho, if_pos ho, ih, hmap]
    · by_cases hc : d.kind = b.closer
      · rw [if_neg ho, if_pos hc]
        cases waiting with
        | zero =>
          rw [closeFrom?_cons_found b hc, closeFrom?_cons_found b hc]
          rfl
        | succ waiting =>
          rw [closeFrom?_cons_closer b hc, closeFrom?_cons_closer b hc, ih, hmap]
          rfl
      · rw [closeFrom?_cons_other b ho hc, closeFrom?_cons_other b ho hc, if_neg ho, if_neg hc,
          ih, hmap]

/-- Whether two directives are the same to a search: both open, both close, or
neither does. -/
structure SameTo (d d' : Directive) : Prop where
  opens : d.kind = b.opener ↔ d'.kind = b.opener
  closes : d.kind = b.closer ↔ d'.kind = b.closer

/-- Lists that are the same to a search are searched with the same result. -/
theorem closeFrom?_congr {xs ys : List Directive} (h : List.Forall₂ b.SameTo xs ys)
    (waiting : Nat) : b.closeFrom? waiting xs = b.closeFrom? waiting ys := by
  induction h generalizing waiting with
  | nil => rfl
  | cons hd _ ih => simp only [closeFrom?, hd.opens, hd.closes, ih]

/-- Directives of the same kinds are the same to a search. -/
theorem forall₂_sameTo_of_kinds {xs ys : List Directive}
    (h : xs.map (·.kind) = ys.map (·.kind)) : List.Forall₂ b.SameTo xs ys := by
  have hkinds : List.Forall₂ Eq (xs.map (·.kind)) (ys.map (·.kind)) := by
    rw [List.forall₂_eq_eq_eq]
    exact h
  refine (List.forall₂_map_left_iff.1 (List.forall₂_map_right_iff.1 hkinds)).imp ?_
  exact fun d d' hkind => ⟨by rw [hkind], by rw [hkind]⟩

/-- What is found is a closing. -/
theorem exists_of_closeFrom? {waiting k : Nat} {ds : List Directive}
    (h : b.closeFrom? waiting ds = some k) : ∃ d, ds[k]? = some d ∧ d.kind = b.closer := by
  induction ds generalizing waiting k with
  | nil => cases h
  | cons d rest ih =>
    -- in all cases but one the search goes on in the rest
    have hrest : ∀ w, (b.closeFrom? w rest).map (· + 1) = some k →
        ∃ d', (d :: rest)[k]? = some d' ∧ d'.kind = b.closer := by
      intro w hw
      obtain ⟨j, hj, rfl⟩ := Option.map_eq_some_iff.1 hw
      exact ih hj
    by_cases ho : d.kind = b.opener
    · rw [closeFrom?_cons_opener b ho] at h
      exact hrest _ h
    · by_cases hc : d.kind = b.closer
      · cases waiting with
        | zero =>
          rw [closeFrom?_cons_found b hc] at h
          obtain rfl := Option.some.inj h
          exact ⟨d, rfl, hc⟩
        | succ waiting =>
          rw [closeFrom?_cons_closer b hc] at h
          exact hrest _ h
      · rw [closeFrom?_cons_other b ho hc] at h
        exact hrest _ h

/-- A list without an excess of closings is seen through, up to what it leaves
waiting. -/
theorem closeFrom?_of_closes_le {xs : List Directive} {depth : Nat}
    (h : ∀ n, b.closes (xs.take n) ≤ b.opens (xs.take n) + depth) (waiting : Nat)
    (ys : List Directive) :
    b.closeFrom? (waiting + depth) (xs ++ ys) =
      (b.closeFrom? (waiting + (depth + b.opens xs - b.closes xs)) ys).map (· + xs.length) := by
  induction xs generalizing depth with
  | nil => simp [opens, closes]
  | cons d rest ih =>
    have hmap : ∀ w, ((b.closeFrom? w ys).map (· + rest.length)).map (· + 1) =
        (b.closeFrom? w ys).map (· + (d :: rest).length) := fun w => by
      rw [Option.map_map]
      rfl
    have hrest : ∀ n, b.closes (rest.take n) + (if d.kind = b.closer then 1 else 0) ≤
        b.opens (rest.take n) + (if d.kind = b.opener then 1 else 0) + depth := fun n => by
      have := h (n + 1)
      rwa [List.take_succ_cons, opens_cons, closes_cons] at this
    rw [List.cons_append, opens_cons, closes_cons]
    by_cases ho : d.kind = b.opener
    · have hc : d.kind ≠ b.closer := fun hc => b.opener_ne_closer (ho.symm.trans hc)
      simp only [if_pos ho, if_neg hc] at hrest ⊢
      rw [closeFrom?_cons_opener b ho, Nat.add_assoc,
        @ih (depth + 1) fun n => by have := hrest n; omega, hmap]
      congr 2
      omega
    · by_cases hc : d.kind = b.closer
      · simp only [if_neg ho, if_pos hc] at hrest ⊢
        obtain ⟨depth, rfl⟩ : ∃ k, depth = k + 1 := by
          have := hrest 0
          simp only [List.take_zero, opens, closes, List.countP_nil] at this
          exact ⟨depth - 1, by omega⟩
        rw [← Nat.add_assoc, closeFrom?_cons_closer b hc,
          @ih depth fun n => by have := hrest n; omega, hmap]
        congr 2
        omega
      · simp only [if_neg ho, if_neg hc] at hrest ⊢
        rw [closeFrom?_cons_other b ho hc, @ih depth fun n => by have := hrest n; omega,
          hmap]
        congr 2

/-- **A balanced list is seen through.** -/
theorem closeFrom?_of_balanced {xs : List Directive} (h : b.Balanced xs) (waiting : Nat)
    (ys : List Directive) :
    b.closeFrom? waiting (xs ++ ys) = (b.closeFrom? waiting ys).map (· + xs.length) := by
  have hle : ∀ n, b.closes (xs.take n) ≤ b.opens (xs.take n) + 0 := h.1
  have hthrough := closeFrom?_of_closes_le b hle waiting ys
  rwa [h.2, Nat.zero_add, Nat.sub_self, Nat.add_zero] at hthrough

/-- Beginnings that are longer than the list need no look. -/
theorem balanced_iff {ds : List Directive} :
    b.Balanced ds ↔ (∀ n < ds.length, b.closes (ds.take n) ≤ b.opens (ds.take n)) ∧
      b.closes ds = b.opens ds := by
  refine ⟨fun h => ⟨fun n _ => h.1 n, h.2⟩, fun h => ⟨fun n => ?_, h.2⟩⟩
  rcases Nat.lt_or_ge n ds.length with hn | hn
  · exact h.1 n hn
  · rw [List.take_of_length_le hn]
    exact Nat.le_of_eq h.2

instance (ds : List Directive) : Decidable (b.Balanced ds) :=
  decidable_of_iff _ b.balanced_iff.symm

/-- Directives stay balanced when they are moved. -/
theorem balanced_shift {ds : List Directive} (h : b.Balanced ds) (bytes newlines : Nat) :
    b.Balanced (ds.map (·.shift bytes newlines)) := by
  have hopens : ∀ l : List Directive, b.opens (l.map (·.shift bytes newlines)) = b.opens l :=
    fun l => List.countP_map
  have hcloses : ∀ l : List Directive, b.closes (l.map (·.shift bytes newlines)) = b.closes l :=
    fun l => List.countP_map
  refine ⟨fun n => ?_, by rw [hopens, hcloses]; exact h.2⟩
  rw [← List.map_take, hopens, hcloses]
  exact h.1 n

/-- A directive that neither opens nor closes is balanced. -/
theorem balanced_singleton {d : Directive} (ho : d.kind ≠ b.opener) (hc : d.kind ≠ b.closer) :
    b.Balanced [d] := by
  have hcloses : ∀ n, b.closes ([d].take n) = 0 := fun n =>
    List.countP_eq_zero.2 fun d' hd' => by
      obtain rfl := List.mem_singleton.1 (List.mem_of_mem_take hd')
      simpa using hc
  have hopens : b.opens [d] = 0 := by simpa [opens] using ho
  exact ⟨fun n => by rw [hcloses]; exact Nat.zero_le _, (hcloses 1).trans hopens.symm⟩

/-- A balanced list stays balanced between the opening of a block and its end. -/
theorem balanced_block {b' : Block} {o c : Directive} {ds : List Directive} (h : b.Balanced ds)
    (ho : o.kind = b'.opener) (hc : c.kind = b'.closer) : b.Balanced (o :: (ds ++ [c])) := by
  have hopens : ∀ l, b.opens (o :: l) = b.opens l + if b' = b then 1 else 0 := fun l => by
    rw [opens_cons, ho, if_congr b.opener_inj rfl rfl]
  have hcloses : ∀ l, b.closes (o :: l) = b.closes l := fun l => by
    rw [closes_cons, ho, if_neg (b.opener_ne_closer_of b'), Nat.add_zero]
  have hopened : b.opens (ds ++ [c]) = b.opens ds := by
    rw [opens_concat, hc, if_neg (b'.opener_ne_closer_of b).symm, Nat.add_zero]
  have hclosed : b.closes (ds ++ [c]) = b.closes ds + if b' = b then 1 else 0 := by
    rw [closes_concat, hc, if_congr b.closer_inj rfl rfl]
  have hall : b.closes (o :: (ds ++ [c])) = b.opens (o :: (ds ++ [c])) := by
    rw [hcloses, hopens, hopened, hclosed, h.2]
  refine ⟨fun n => ?_, hall⟩
  cases n with
  | zero => exact Nat.le_refl 0
  | succ n =>
    rcases Nat.lt_or_ge ds.length n with hn | hn
    · rw [List.take_of_length_le (by simp; omega)]
      exact Nat.le_of_eq hall
    · rw [List.take_succ_cons, List.take_append_of_le_length hn, hcloses, hopens]
      exact Nat.le_add_right_of_le (h.1 n)

/-- The closing of a block is a closing directive behind the opening one. -/
theorem exists_of_close? {ds : List Directive} {start k : Nat}
    (h : b.close? ds start = some k) :
    start < k ∧ ∃ d, ds[k]? = some d ∧ d.kind = b.closer := by
  obtain ⟨j, hj, rfl⟩ := Option.map_eq_some_iff.1 h
  obtain ⟨d, hd, hkind⟩ := b.exists_of_closeFrom? hj
  rw [List.getElem?_drop, Nat.add_comm] at hd
  exact ⟨by omega, d, hd, hkind⟩

/-- **A block over a balanced list is closed behind it.** -/
theorem close?_of_balanced (before : List Directive) (o : Directive) {ds : List Directive}
    {c : Directive} (h : b.Balanced ds) (hc : c.kind = b.closer) (rest : List Directive) :
    b.close? (before ++ o :: (ds ++ c :: rest)) before.length =
      some (before.length + ds.length + 1) := by
  have hdrop : (before ++ o :: (ds ++ c :: rest)).drop (before.length + 1) = ds ++ c :: rest := by
    rw [List.drop_length_add_append]
    rfl
  rw [close?, hdrop, b.closeFrom?_of_balanced h, b.closeFrom?_cons_found hc, Option.map_some,
    Option.map_some]
  congr 1
  omega

/-- A search from the first part of a list. -/
theorem close?_append_left {xs : List Directive} {start : Nat} (h : start < xs.length)
    (ys : List Directive) :
    b.close? (xs ++ ys) start =
      (b.close? xs start).or
        ((b.closeFrom? (b.waitingAfter 0 (xs.drop (start + 1))) ys).map (· + xs.length)) := by
  have hlen : (xs.drop (start + 1)).length + (start + 1) = xs.length := by
    rw [List.length_drop]
    omega
  unfold close?
  rw [List.drop_append_of_le_length (show start + 1 ≤ xs.length from h), closeFrom?_append,
    Option.map_or, Option.map_map]
  congr 2
  funext k
  simp only [Function.comp_apply]
  omega

/-- A search from the second part of a list. -/
theorem close?_append_right (xs ys : List Directive) (start : Nat) :
    b.close? (xs ++ ys) (xs.length + start) = (b.close? ys start).map (· + xs.length) := by
  unfold close?
  rw [Nat.add_assoc, List.drop_length_add_append, Option.map_map]
  congr 1
  funext k
  simp only [Function.comp_apply]
  omega

/-- **What is closed in a part is closed there in the whole.** -/
theorem close?_segment {ds : List Directive} {start k : Nat} (h : b.close? ds start = some k)
    (before after : List Directive) :
    b.close? (before ++ (ds ++ after)) (before.length + start) = some (before.length + k) := by
  have hlt : start < ds.length := by
    obtain ⟨hk, d, hd, -⟩ := b.exists_of_close? h
    obtain ⟨hlen, -⟩ := List.getElem?_eq_some_iff.1 hd
    omega
  rw [close?_append_right, close?_append_left b hlt, h]
  simp [Nat.add_comm]

/-- **A balanced part may be put in place of another one.**  A block that is
opened in front of them is closed at the same directive. -/
theorem close?_replace {part part' : List Directive} (h : b.Balanced part)
    (h' : b.Balanced part') {before : List Directive} {start : Nat} (hs : start < before.length)
    (after : List Directive) :
    b.close? (before ++ (part' ++ after)) start =
      (b.close? (before ++ (part ++ after)) start).map fun k =>
        if k < before.length then k else k - part.length + part'.length := by
  rw [close?_append_left b hs, close?_append_left b hs, closeFrom?_of_balanced b h,
    closeFrom?_of_balanced b h', Option.map_or, Option.map_map, Option.map_map, Option.map_map]
  congr 1
  · cases hk : b.close? before start with
    | none => rfl
    | some k =>
      obtain ⟨-, d, hd, -⟩ := b.exists_of_close? hk
      obtain ⟨hlen, -⟩ := List.getElem?_eq_some_iff.1 hd
      rw [Option.map_some, if_pos hlen]
  · congr 1
    funext k
    simp only [Function.comp_apply]
    rw [if_neg (by omega)]
    omega

/-- Lists that are the same to a search have their blocks closed at the same places. -/
theorem close?_congr_of_forall₂ {xs ys : List Directive} (h : List.Forall₂ b.SameTo xs ys)
    (start : Nat) : b.close? xs start = b.close? ys start := by
  rw [close?, close?, b.closeFrom?_congr (List.forall₂_drop (start + 1) h)]

/-- So have lists of the same kinds. -/
theorem close?_congr {xs ys : List Directive} (h : xs.map (·.kind) = ys.map (·.kind))
    (start : Nat) : b.close? xs start = b.close? ys start :=
  b.close?_congr_of_forall₂ (b.forall₂_sameTo_of_kinds h) start

end Block

end BracketTemplate
