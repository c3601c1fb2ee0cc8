/-
# The counter of the search for a closing

The search for the closing of a block counts the openings that wait, and its counter
has 32 bits.  Here it would stop at an opening that takes the counter above
`maxCount` and at a closing that takes it below zero (`matchingClose`).

| directive passed | counter |
| --- | --- |
| opening, below `maxCount` | one more |
| opening, at `maxCount` | stop |
| closing, above `0` | one less |
| closing, at `0` | the one sought |
| any other | the same |

The counter never falls below zero, and it is never above the number of openings
passed.  So where no more than `maxCount` openings follow, as in every list of at
most 2³¹ directives, the search does not stop and finds what `Block.close?` finds,
which counts without a largest number (`matchingClose_eq`).  Where only openings follow,
and more of them, it stops (`matchingClose_of_openers`).
-/

import BracketTemplate.Proofs.Matching
import BracketTemplate.Proofs.Slices

namespace BracketTemplate

/-- Behind an opening there is one opening less. -/
theorem Block.opens_drop_lt (b : Block) {ds : List Directive} {start : Nat} {d : Directive}
    (h : ds[start]? = some d) (hd : d.kind = b.opener) :
    b.opens (ds.drop (start + 1)) < b.opens ds := by
  obtain ⟨hstart, rfl⟩ := List.getElem?_eq_some_iff.1 h
  have hcons := b.opens_cons ds[start] (ds.drop (start + 1))
  rw [← List.drop_eq_getElem_cons hstart, if_pos hd] at hcons
  have hle : b.opens (ds.drop start) ≤ b.opens ds := (List.drop_sublist _ _).countP_le
  omega

namespace Guarded

/-- A result or an error of the render, unless the program cannot go on. -/
abbrev Attempt (α : Type) : Type := ExceptT RenderError Guarded α

/-- A result or an error for which nothing has to be looked up. -/
def sure {α : Type} (x : Except RenderError α) : Attempt α := ExceptT.mk (.ok x)

/-- An attempt that stops. -/
def stopped {α : Type} (trap : Trap) : Attempt α := ExceptT.mk (.error trap)

theorem sure_inj {α : Type} {x y : Except RenderError α} : sure x = sure y ↔ x = y :=
  ⟨fun h => Except.ok.inj h, congrArg sure⟩

/-- The index of the first closing in a list that no opening claims; the first of
the list has an index, and `depth` openings in front of it wait for their closing. -/
def closeFrom (b : Block) : (depth index : Nat) → List Directive → Guarded (Option Nat)
  | _, _, [] => .ok none
  | depth, index, d :: rest =>
    if d.kind = b.opener then do
      let depth ← succ maxCount depth
      closeFrom b depth (index + 1) rest
    else if d.kind = b.closer then
      if depth = 0 then .ok (some index)
      else do
        let depth ← sub depth 1
        closeFrom b depth (index + 1) rest
    else closeFrom b depth (index + 1) rest

/-- The index of the directive that closes the block opened at `start`. -/
def matchingClose (b : Block) (directives : List Directive) (start : Nat) : Attempt Nat :=
  ExceptT.mk do
    match ← closeFrom b 0 (start + 1) (directives.drop (start + 1)) with
    | some close => return .ok close
    | none =>
      let opener ← index directives start
      return .error (.unterminatedBlock opener.keyword opener.line)

/-- **The counter stays within its bounds**, unless there are too many openings to
count, and the search finds what `Block.closeFrom?` finds. -/
theorem closeFrom_eq (b : Block) {depth start : Nat} {directives : List Directive}
    (h : depth + b.opens directives ≤ maxCount) :
    closeFrom b depth start directives = .ok ((b.closeFrom? depth directives).map (start + ·)) := by
  induction directives generalizing depth start with
  | nil => rfl
  | cons d rest ih =>
    rw [Block.opens_cons] at h
    have hshift {waiting : Nat} (h : waiting + b.opens rest ≤ maxCount) :
        closeFrom b waiting (start + 1) rest =
          .ok (((b.closeFrom? waiting rest).map (· + 1)).map (start + ·)) := by
      rw [ih h, Option.map_map]
      congr 2
      funext k
      simp only [Function.comp_apply]
      omega
    rw [closeFrom, Block.closeFrom?.eq_def]
    dsimp only
    by_cases hopen : d.kind = b.opener
    · rw [if_pos hopen] at h
      rw [if_pos hopen, if_pos hopen, succ_eq_ok (by omega)]
      exact hshift (by omega)
    rw [if_neg hopen] at h
    rw [if_neg hopen, if_neg hopen]
    by_cases hclose : d.kind = b.closer
    swap
    · rw [if_neg hclose, if_neg hclose, hshift h]
    rw [if_pos hclose, if_pos hclose]
    cases depth with
    | zero => rfl
    | succ depth => exact hshift (by omega)

/-- **With few enough openings behind the beginning of a block the search for its
closing is the one that counts without bounds.** -/
theorem matchingClose_eq (b : Block) {directives : List Directive} {start : Nat} {d : Directive}
    (h : directives[start]? = some d) (hcount : b.opens (directives.drop (start + 1)) ≤ maxCount) :
    matchingClose b directives start = sure (Machine.closing b directives d start) := by
  have hindex : index directives start = .ok d := index_eq_ok_iff.2 h
  have hclose : b.close? directives start =
      (b.closeFrom? 0 (directives.drop (start + 1))).map (start + 1 + ·) := by
    rw [Block.close?]
    congr 1
    funext k
    exact Nat.add_comm ..
  rw [matchingClose, closeFrom_eq b (by rwa [Nat.zero_add]), ← hclose, Machine.closing]
  simp only [bind, Except.bind]
  cases b.close? directives start with
  | some close => rfl
  | none =>
    simp only [hindex]
    rfl

/-- Over openings alone the counter only goes up. -/
theorem closeFrom_of_openers (b : Block) {depth start : Nat} {directives : List Directive}
    (hopeners : ∀ d ∈ directives, d.kind = b.opener)
    (hdepth : depth ≤ maxCount) (h : maxCount < depth + directives.length) :
    closeFrom b depth start directives = .error .aboveMax := by
  induction directives generalizing depth start with
  | nil => exact absurd hdepth (Nat.not_le.2 h)
  | cons d rest ih =>
    obtain ⟨hd, hrest⟩ := List.forall_mem_cons.1 hopeners
    rw [closeFrom, if_pos hd]
    rcases Nat.lt_or_ge depth maxCount with hlt | hge
    · rw [succ_eq_ok hlt]
      exact ih hrest hlt (by rw [List.length_cons] at h; omega)
    · rw [succ_eq_error hge]
      rfl

/-- **With too many openings behind the beginning of a block the search stops.** -/
theorem matchingClose_of_openers (b : Block) {directives : List Directive} {start : Nat}
    (hopeners : ∀ d ∈ directives, d.kind = b.opener)
    (h : maxCount + start + 1 < directives.length) :
    matchingClose b directives start = stopped .aboveMax := by
  have hfrom : closeFrom b 0 (start + 1) (directives.drop (start + 1)) = .error .aboveMax :=
    closeFrom_of_openers b (fun d hd => hopeners d (List.mem_of_mem_drop hd)) (Nat.zero_le _)
      (by rw [List.length_drop]; omega)
  rw [matchingClose, hfrom]
  rfl

/-- **The closing of a block is the first one that is even with its beginning.**
From whatever directive a search starts with no more openings of the kind behind it
than the counter can count, it finds `k` exactly if `k` is the least place behind it
with a closing of the kind such that as many blocks of the kind are opened as closed
strictly between; else the block is not terminated, and the error names the
directive and its line.  Of two blocks of the kind the later one begins behind the
end of the earlier one or ends before it, and a block that begins in another has an
end. -/
theorem matchingClose_iff_least (b : Block) (ds : List Directive) (start : Fin ds.length)
    (hcount : b.opens (ds.drop (start + 1)) ≤ maxCount) :
    (∀ k, matchingClose b ds start = sure (.ok k) ↔ IsLeast {k | b.EvenAt ds start k} k) ∧
    (∀ e, matchingClose b ds start = sure (.error e) ↔
      e = .unterminatedBlock ds[start].keyword ds[start].line ∧ ∀ k, ¬ b.EvenAt ds start k) ∧
    (∃ r, matchingClose b ds start = sure r) ∧
    ∀ j : Fin ds.length, start < j → ds[j].kind = b.opener →
      ∀ k, matchingClose b ds start = sure (.ok k) →
        (∀ m, matchingClose b ds j = sure (.ok m) → k < j ∨ m < k) ∧
        (j < k → ∃ m, matchingClose b ds j = sure (.ok m)) := by
  have hat (i : Fin ds.length) : ds[(i : Nat)]? = some ds[i] := List.getElem?_eq_getElem i.isLt
  have hstart := matchingClose_eq b (hat start) hcount
  refine ⟨fun k => ?_, fun e => ?_, ⟨_, hstart⟩, fun j hj ho k hk => ?_⟩
  · rw [hstart, sure_inj, Machine.closing_eq_ok, b.close?_eq_some_iff]
  · rw [hstart, sure_inj, Machine.closing_eq_error, b.close?_eq_none_iff, and_comm]
  · rw [hstart, sure_inj, Machine.closing_eq_ok] at hk
    have hle : b.opens (ds.drop (j + 1)) ≤ b.opens (ds.drop (start + 1)) := by
      have hdrop : ds.drop (j + 1) = (ds.drop (start + 1)).drop (j - start) := by
        rw [List.drop_drop]
        congr 1
        omega
      rw [hdrop]
      exact (List.drop_sublist _ _).countP_le
    have hinner := matchingClose_eq b (hat j) (Nat.le_trans hle hcount)
    simp only [hinner, sure_inj, Machine.closing_eq_ok]
    refine ⟨fun m hm => b.close?_disjoint hk hj (hat j) ho hm, fun hjk => ?_⟩
    obtain ⟨m, -, -, hclose⟩ := Block.close?_inner hk hj hjk (hat j) ho
    exact ⟨m, hclose⟩

/-- A condition in another one, and a loop that crosses both. -/
def crossing : List Directive :=
  [⟨"if", ["a"], 0, 12, 1⟩, ⟨"for", ["x"], 12, 25, 1⟩, ⟨"if", ["b"], 25, 37, 1⟩,
    ⟨"endfor", [], 37, 49, 1⟩, ⟨"endif", [], 49, 60, 1⟩, ⟨"endif", [], 60, 71, 1⟩]

theorem matchingClose_iff_least_crossing :
    Block.condition.opens (crossing.drop 1) ≤ maxCount ∧
      IsLeast {k | Block.condition.EvenAt crossing 0 k} 5 ∧
      ∃ m, matchingClose .condition crossing 2 = sure (.ok m) ∧ (5 < 2 ∨ m < 5) := by
  have hcount : Block.condition.opens (crossing.drop 1) ≤ maxCount := by decide +kernel
  obtain ⟨hleast, -, -, hcross⟩ := matchingClose_iff_least .condition crossing (0 : Fin 6) hcount
  have hfound : matchingClose .condition crossing 0 = sure (.ok 5) := by cbv
  obtain ⟨hdisjoint, hends⟩ := hcross (2 : Fin 6) (by decide) (by decide +kernel) 5 hfound
  obtain ⟨m, hm⟩ := hends (by decide)
  exact ⟨hcount, (hleast 5).1 hfound, m, hm, hdisjoint m hm⟩

/-- Behind the first of 2³¹ + 1 conditions, none of which has an end, there are more
than can be counted. -/
theorem matchingClose_stops_at_conditions :
    matchingClose .condition (List.replicate (2 ^ 31 + 1) ⟨"if", ["x"], 0, 12, 1⟩) 0 =
      stopped .aboveMax ∧
    (∀ k, ¬ Block.condition.EvenAt (List.replicate (2 ^ 31 + 1) ⟨"if", ["x"], 0, 12, 1⟩) 0 k) ∧
    ∀ e, matchingClose .condition (List.replicate (2 ^ 31 + 1) ⟨"if", ["x"], 0, 12, 1⟩) 0 ≠
      sure (.error e) := by
  have hopeners : ∀ d ∈ List.replicate (2 ^ 31 + 1) (⟨"if", ["x"], 0, 12, 1⟩ : Directive),
      d.kind = Block.condition.opener := by
    intro d hd
    rw [List.eq_of_mem_replicate hd]
    decide +kernel
  have hstops : matchingClose .condition (List.replicate (2 ^ 31 + 1) ⟨"if", ["x"], 0, 12, 1⟩) 0 =
      stopped .aboveMax :=
    matchingClose_of_openers .condition hopeners (by rw [List.length_replicate, maxCount]; omega)
  refine ⟨hstops, ?_, fun e he => ?_⟩
  · rintro k ⟨-, ⟨d, hd, hcloser⟩, -⟩
    have hopener := hopeners d (List.mem_of_getElem? hd)
    exact Block.condition.opener_ne_closer (hopener.symm.trans hcloser)
  · cases hstops.symm.trans he

end Guarded

end BracketTemplate
