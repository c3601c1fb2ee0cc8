/-
# Which closing a block has

`Block.close?` keeps one number, that of the openings that still wait.  What it
finds can be said without it: a closing is even with an opening in front of it
(`EvenAt`) if the directives strictly between the two open as many blocks of the
kind as they close, and the search finds the first closing that is even
(`closeFrom?_eq_some_iff`, over the part of the list that is left, with the
openings that wait at its beginning).  It finds nothing only where there is none
(`close?_eq_none_iff`).

| directive passed | waiting | the same closings are even behind it with |
| --- | --- | --- |
| opening | `n` | `n + 1` |
| closing | `n + 1` | `n` |
| closing | `0` | it is even itself |
| any other | `n` | `n` |

So blocks of one kind never cross (`close?_disjoint`).
-/

import BracketTemplate.Proofs.Crossings

namespace BracketTemplate

/-- The least number with a property is one more than that with the property of
successors, if `0` does not have it. -/
theorem isLeast_iff_exists_succ {P Q : Nat → Prop} (hzero : ¬ P 0) (hsucc : ∀ k, P (k + 1) ↔ Q k)
    {k : Nat} : IsLeast {k | P k} k ↔ ∃ j, IsLeast {j | Q j} j ∧ j + 1 = k := by
  constructor
  · rintro ⟨hk, hleast⟩
    obtain ⟨j, rfl⟩ : ∃ j, k = j + 1 :=
      Nat.exists_eq_succ_of_ne_zero fun h => hzero (h ▸ hk)
    exact ⟨j, ⟨(hsucc j).1 hk, fun m hm => Nat.le_of_succ_le_succ (hleast ((hsucc m).2 hm))⟩, rfl⟩
  · rintro ⟨j, ⟨hj, hleast⟩, rfl⟩
    refine ⟨(hsucc j).2 hj, fun m hm => ?_⟩
    cases m with
    | zero => exact absurd hm hzero
    | succ m => exact Nat.succ_le_succ (hleast ((hsucc m).1 hm))

namespace Block

/-- The directives strictly between two places of a list. -/
def between (ds : List Directive) (start k : Nat) : List Directive :=
  (ds.take k).drop (start + 1)

/-- Whether the directive at `k` closes a block of the kind and the directives in
front of it close as many as they open and `waiting` more. -/
structure EvenFrom (b : Block) (waiting : Nat) (ds : List Directive) (k : Nat) : Prop where
  closer : ∃ d, ds[k]? = some d ∧ d.kind = b.closer
  even : b.opens (ds.take k) + waiting = b.closes (ds.take k)

/-- Whether a later directive, at `k`, closes a block of the kind, and those
strictly between `start` and `k` open as many as they close. -/
structure EvenAt (b : Block) (ds : List Directive) (start k : Nat) : Prop where
  lt : start < k
  closer : ∃ d, ds[k]? = some d ∧ d.kind = b.closer
  even : b.opens (between ds start k) = b.closes (between ds start k)

variable (b : Block)

/-- At the first directive a closing is even if none waits. -/
theorem evenFrom_zero {waiting : Nat} {d : Directive} {rest : List Directive} :
    b.EvenFrom waiting (d :: rest) 0 ↔ d.kind = b.closer ∧ waiting = 0 := by
  constructor
  · rintro ⟨⟨d', hd', hkind⟩, heven⟩
    obtain rfl : d = d' := Option.some.inj hd'
    refine ⟨hkind, ?_⟩
    simpa [opens, closes] using heven
  · rintro ⟨hkind, rfl⟩
    exact ⟨⟨d, rfl, hkind⟩, rfl⟩

/-- Behind the first directive it is even with what that one leaves waiting. -/
theorem evenFrom_succ {waiting waiting' : Nat} {d : Directive} (rest : List Directive)
    (h : waiting + (if d.kind = b.opener then 1 else 0) =
      waiting' + if d.kind = b.closer then 1 else 0) (k : Nat) :
    b.EvenFrom waiting (d :: rest) (k + 1) ↔ b.EvenFrom waiting' rest k := by
  have heven : b.opens ((d :: rest).take (k + 1)) + waiting = b.closes ((d :: rest).take (k + 1)) ↔
      b.opens (rest.take k) + waiting' = b.closes (rest.take k) := by
    rw [List.take_succ_cons, opens_cons, closes_cons]
    omega
  exact ⟨fun h => ⟨h.closer, heven.1 h.even⟩, fun h => ⟨h.closer, heven.2 h.even⟩⟩

/-- **The search finds the first closing that is even.** -/
theorem closeFrom?_eq_some_iff {waiting k : Nat} {ds : List Directive} :
    b.closeFrom? waiting ds = some k ↔ IsLeast {k | b.EvenFrom waiting ds k} k := by
  induction ds generalizing waiting k with
  | nil =>
    refine ⟨fun h => (Option.some_ne_none k h.symm).elim, ?_⟩
    rintro ⟨⟨⟨d, hd, -⟩, -⟩, -⟩
    cases hd
  | cons d rest ih =>
    by_cases ho : d.kind = b.opener
    · have hc : d.kind ≠ b.closer := fun hc => b.opener_ne_closer (ho.symm.trans hc)
      have hzero : ¬ b.EvenFrom waiting (d :: rest) 0 := fun h => hc (b.evenFrom_zero.1 h).1
      have hwaiting : waiting + (if d.kind = b.opener then 1 else 0) =
          waiting + 1 + if d.kind = b.closer then 1 else 0 := by rw [if_pos ho, if_neg hc]
      have hsucc := b.evenFrom_succ rest hwaiting
      rw [closeFrom?_cons_opener b ho, Option.map_eq_some_iff, isLeast_iff_exists_succ hzero hsucc]
      simp only [ih]
    · by_cases hc : d.kind = b.closer
      · cases waiting with
        | zero =>
          have heven : b.EvenFrom 0 (d :: rest) 0 := b.evenFrom_zero.2 ⟨hc, rfl⟩
          have hleast : IsLeast {k | b.EvenFrom 0 (d :: rest) k} 0 :=
            ⟨heven, fun m _ => Nat.zero_le m⟩
          rw [closeFrom?_cons_found b hc, Option.some_inj]
          exact ⟨fun h => h ▸ hleast, fun h => hleast.unique h⟩
        | succ waiting =>
          have hzero : ¬ b.EvenFrom (waiting + 1) (d :: rest) 0 := fun h =>
            Nat.succ_ne_zero waiting (b.evenFrom_zero.1 h).2
          have hwaiting : waiting + 1 + (if d.kind = b.opener then 1 else 0) =
              waiting + if d.kind = b.closer then 1 else 0 := by rw [if_neg ho, if_pos hc]
          have hsucc := b.evenFrom_succ rest hwaiting
          rw [closeFrom?_cons_closer b hc, Option.map_eq_some_iff,
            isLeast_iff_exists_succ hzero hsucc]
          simp only [ih]
      · have hzero : ¬ b.EvenFrom waiting (d :: rest) 0 := fun h => hc (b.evenFrom_zero.1 h).1
        have hwaiting : waiting + (if d.kind = b.opener then 1 else 0) =
            waiting + if d.kind = b.closer then 1 else 0 := by rw [if_neg ho, if_neg hc]
        have hsucc := b.evenFrom_succ rest hwaiting
        rw [closeFrom?_cons_other b ho hc, Option.map_eq_some_iff,
          isLeast_iff_exists_succ hzero hsucc]
        simp only [ih]

/-- A closing behind an opening is even with it if it is even behind it. -/
theorem evenAt_iff {ds : List Directive} {start k : Nat} :
    b.EvenAt ds start k ↔ ∃ j, b.EvenFrom 0 (ds.drop (start + 1)) j ∧ j + (start + 1) = k := by
  have hbetween : ∀ j, between ds start (j + (start + 1)) = (ds.drop (start + 1)).take j :=
    fun j => by rw [between, List.drop_take, Nat.add_sub_cancel]
  have hat : ∀ j, (ds.drop (start + 1))[j]? = ds[j + (start + 1)]? :=
    fun j => by rw [List.getElem?_drop, Nat.add_comm]
  constructor
  · rintro ⟨hlt, hcloser, heven⟩
    obtain ⟨j, rfl⟩ : ∃ j, k = j + (start + 1) := ⟨k - (start + 1), by omega⟩
    rw [hbetween] at heven
    exact ⟨j, ⟨by rw [hat]; exact hcloser, heven⟩, rfl⟩
  · rintro ⟨j, ⟨hcloser, heven⟩, rfl⟩
    rw [hat] at hcloser
    exact ⟨by omega, hcloser, by rw [hbetween]; exact heven⟩

/-- **A block ends at the first closing that is even with its beginning.** -/
theorem close?_eq_some_iff {ds : List Directive} {start k : Nat} :
    b.close? ds start = some k ↔ IsLeast {k | b.EvenAt ds start k} k := by
  simp only [close?, Option.map_eq_some_iff, closeFrom?_eq_some_iff, b.evenAt_iff]
  constructor
  · rintro ⟨j, ⟨hj, hleast⟩, rfl⟩
    refine ⟨⟨j, hj, rfl⟩, ?_⟩
    rintro _ ⟨m, hm, rfl⟩
    exact Nat.add_le_add_right (hleast hm) _
  · rintro ⟨⟨j, hj, rfl⟩, hleast⟩
    exact ⟨j, ⟨hj, fun m hm => Nat.le_of_add_le_add_right (hleast ⟨m, hm, rfl⟩)⟩, rfl⟩

/-- It has no end only where no closing is even with its beginning. -/
theorem close?_eq_none_iff {ds : List Directive} {start : Nat} :
    b.close? ds start = none ↔ ∀ k, ¬ b.EvenAt ds start k := by
  constructor
  · intro hnone k hk
    have hleast : IsLeast {k | b.EvenAt ds start k} (sInf {k | b.EvenAt ds start k}) :=
      ⟨Nat.sInf_mem ⟨k, hk⟩, fun j hj => Nat.sInf_le hj⟩
    rw [b.close?_eq_some_iff.2 hleast] at hnone
    cases hnone
  · intro h
    refine Option.eq_none_iff_forall_ne_some.2 fun k hk => ?_
    exact h k (b.close?_eq_some_iff.1 hk).1

/-- A block does not end where another one begins. -/
theorem close?_ne_opener {ds : List Directive} {start k j : Nat} {d : Directive}
    (h : b.close? ds start = some k) (hd : ds[j]? = some d) (ho : d.kind = b.opener) : k ≠ j := by
  rintro rfl
  obtain ⟨-, c, hc, hcloser⟩ := b.exists_of_close? h
  obtain rfl : d = c := Option.some.inj (hd.symm.trans hc)
  exact b.opener_ne_closer (ho.symm.trans hcloser)

/-- **Blocks of one kind never cross.**  A block that begins behind the beginning of
another one begins behind its end or ends before it. -/
theorem close?_disjoint {ds : List Directive} {i j k m : Nat} {d : Directive}
    (h : b.close? ds i = some k) (hij : i < j) (hd : ds[j]? = some d) (ho : d.kind = b.opener)
    (h' : b.close? ds j = some m) : k < j ∨ m < k := by
  rcases Nat.lt_or_ge j k with hjk | hkj
  · obtain ⟨m', hlt, -, hclose⟩ := close?_inner h hij hjk hd ho
    obtain rfl : m = m' := Option.some.inj (h'.symm.trans hclose)
    exact .inr hlt
  · exact .inl (Nat.lt_of_le_of_ne hkj (b.close?_ne_opener h hd ho))

end Block

end BracketTemplate
