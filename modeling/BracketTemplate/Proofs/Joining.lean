/-
# Joining paths

Where two parts of a path meet there is one slash, whatever slashes they had
there.  What is left of a part is told by its slashes alone: it is the part
without those at one end, and has none there itself (`IsTrimmed`, `IsTrimmedLeft`).

When three parts are joined the one in the middle is trimmed at both ends, and
the two ways to join them trim its ends in different orders.  Only a middle with
something between its slashes has two ends:

| middle | trimmed at both ends | slashes left around it |
| --- | --- | --- |
| empty, or slashes only | nothing | one, the other is trimmed by the second join |
| anything else | the same in either order (`dropTrailing_dropLeading`) | both |
-/

import BracketTemplate.SourcePath
import Mathlib

namespace BracketTemplate

namespace SourcePath

/-- Whether a text is another one without the slashes at its end. -/
structure IsTrimmed (base folder : String) : Prop where
  last : folder.toList.getLast? ≠ some '/'
  rest : ∃ n, base.toList = folder.toList ++ List.replicate n '/'

/-- Whether a text is another one without the slashes at its start. -/
structure IsTrimmedLeft (text name : String) : Prop where
  first : name.toList.head? ≠ some '/'
  rest : ∃ n, text.toList = List.replicate n '/' ++ name.toList

/-- A text of slashes. -/
def slashes (n : Nat) : String := String.ofList (List.replicate n '/')

section Trimming

variable {cs : List Char}

theorem dropLeading_eq_nil : dropLeading cs = [] ↔ ∀ c ∈ cs, c = '/' := by
  simp [dropLeading]

theorem dropTrailing_eq_nil : dropTrailing cs = [] ↔ ∀ c ∈ cs, c = '/' := by
  simp [dropTrailing, dropLeading]

/-- Behind the first character that is no slash nothing is dropped. -/
theorem dropLeading_append (xs ys : List Char) :
    dropLeading (xs ++ ys) =
      if dropLeading xs = [] then dropLeading ys else dropLeading xs ++ ys := by
  split
  · rename_i h
    exact List.dropWhile_append_of_pos (List.dropWhile_eq_nil_iff.1 h)
  · rename_i h
    exact List.dropWhile_append.trans (if_neg (mt List.isEmpty_iff.1 h))

/-- In front of the last character that is no slash nothing is dropped. -/
theorem dropTrailing_append (xs ys : List Char) :
    dropTrailing (xs ++ ys) =
      if dropTrailing ys = [] then dropTrailing xs else xs ++ dropTrailing ys := by
  simp only [dropTrailing, List.reverse_append, dropLeading_append, List.reverse_eq_nil_iff]
  split
  · rfl
  · rw [List.reverse_append, List.reverse_reverse]

theorem dropLeading_slashes (n : Nat) (cs : List Char) :
    dropLeading (List.replicate n '/' ++ cs) = dropLeading cs := by
  rw [dropLeading_append, if_pos (dropLeading_eq_nil.2 fun c hc => List.eq_of_mem_replicate hc)]

theorem dropTrailing_slashes (n : Nat) (cs : List Char) :
    dropTrailing (cs ++ List.replicate n '/') = dropTrailing cs := by
  rw [dropTrailing_append, if_pos (dropTrailing_eq_nil.2 fun c hc => List.eq_of_mem_replicate hc)]

theorem dropLeading_dropLeading (cs : List Char) : dropLeading (dropLeading cs) = dropLeading cs :=
  List.dropWhile_idempotent _ cs

theorem dropTrailing_dropTrailing (cs : List Char) :
    dropTrailing (dropTrailing cs) = dropTrailing cs := List.rdropWhile_idempotent _ cs

theorem dropLeading_cons_of_ne {c : Char} (h : c ≠ '/') (cs : List Char) :
    dropLeading (c :: cs) = c :: cs :=
  List.dropWhile_cons_of_neg fun hslash => h (beq_iff_eq.1 hslash)

/-- **Which end is trimmed first makes no difference.** -/
theorem dropTrailing_dropLeading (cs : List Char) :
    dropTrailing (dropLeading cs) = dropLeading (dropTrailing cs) := by
  induction cs with
  | nil => rfl
  | cons c rest ih =>
    have htrailing : dropTrailing (c :: rest) =
        if dropTrailing rest = [] then dropTrailing [c] else c :: dropTrailing rest :=
      dropTrailing_append [c] rest
    by_cases hc : c = '/'
    · subst hc
      have hleading : dropLeading ('/' :: rest) = dropLeading rest := dropLeading_slashes 1 rest
      rw [hleading, htrailing, ih]
      split
      · rename_i hnil
        rw [hnil]
        rfl
      · exact (dropLeading_slashes 1 _).symm
    · have hsingle : dropTrailing [c] = [c] := congrArg List.reverse (dropLeading_cons_of_ne hc [])
      rw [dropLeading_cons_of_ne hc, htrailing, hsingle]
      split <;> exact (dropLeading_cons_of_ne hc _).symm

end Trimming

/-- What `dropTrailing` leaves has no slash at its end, and it drops nothing else. -/
theorem isTrimmed_dropTrailing (base : String) :
    IsTrimmed base (String.ofList (dropTrailing base.toList)) where
  last := by
    rw [String.toList_ofList]
    change (base.toList.rdropWhile (· == '/')).getLast? ≠ some '/'
    intro h
    have hne : base.toList.rdropWhile (· == '/') ≠ [] := by
      intro hnil
      rw [hnil] at h
      cases h
    rw [List.getLast?_eq_getLast_of_ne_nil hne] at h
    exact List.rdropWhile_last_not _ _ hne (beq_iff_eq.2 (Option.some.inj h))
  rest := by
    rw [String.toList_ofList]
    refine ⟨(base.toList.rtakeWhile (· == '/')).length, ?_⟩
    have hslashes : base.toList.rtakeWhile (· == '/') =
        List.replicate (base.toList.rtakeWhile (· == '/')).length '/' := by
      refine List.eq_replicate_of_mem fun c hc => ?_
      have hslash := List.mem_rtakeWhile_imp hc
      exact beq_iff_eq.1 hslash
    rw [← hslashes]
    exact List.rdropWhile_append_rtakeWhile.symm

/-- What `dropLeading` leaves has no slash at its start, and it drops nothing else. -/
theorem isTrimmedLeft_dropLeading (text : String) :
    IsTrimmedLeft text (String.ofList (dropLeading text.toList)) where
  first := by
    rw [String.toList_ofList]
    intro h
    have hnot := List.head?_dropWhile_not (· == '/') text.toList
    change (text.toList.dropWhile (· == '/')).head? = some '/' at h
    rw [h] at hnot
    cases hnot
  rest := by
    rw [String.toList_ofList]
    refine ⟨(text.toList.takeWhile (· == '/')).length, ?_⟩
    have hslashes : text.toList.takeWhile (· == '/') =
        List.replicate (text.toList.takeWhile (· == '/')).length '/' := by
      refine List.eq_replicate_of_mem fun c hc => ?_
      have hslash := List.mem_takeWhile_imp hc
      exact beq_iff_eq.1 hslash
    rw [← hslashes]
    exact List.takeWhile_append_dropWhile.symm

theorem toList_join (base rest : String) :
    (join base rest).toList = dropTrailing base.toList ++ '/' :: dropLeading rest.toList :=
  String.toList_ofList

theorem join_eq (base rest : String) :
    join base rest = String.ofList (dropTrailing base.toList) ++ "/" ++
      String.ofList (dropLeading rest.toList) := by
  rw [← String.toList_inj, toList_join, String.toList_append, String.toList_append,
    String.toList_ofList, String.toList_ofList, String.toList_ofList, List.append_cons]

/-- A name without slashes is put behind the folder as it is. -/
theorem join_of_not_mem {base file : String} (h : '/' ∉ file.toList) :
    join base file = String.ofList (dropTrailing base.toList) ++ "/" ++ file := by
  have hleading : dropLeading file.toList = file.toList := by
    refine List.dropWhile_eq_self_iff.2 fun hpos hslash => ?_
    exact h (beq_iff_eq.1 hslash ▸ List.getElem_mem hpos)
  rw [join_eq, hleading, String.ofList_toList]

/-- Slashes where two parts meet make no difference. -/
theorem join_slashes (base rest : String) (n m : Nat) :
    join (base ++ slashes n) (slashes m ++ rest) = join base rest := by
  rw [← String.toList_inj, toList_join, toList_join, String.toList_append, String.toList_append,
    slashes, slashes, String.toList_ofList, String.toList_ofList, dropTrailing_slashes,
    dropLeading_slashes]

/-- **Parts may be joined in either order.** -/
theorem join_join (a b c : String) : join (join a b) c = join a (join b c) := by
  rw [← String.toList_inj, toList_join, toList_join, toList_join, toList_join]
  by_cases hb : dropLeading b.toList = []
  · -- the slash that the first join puts is at an end, and the second one drops it
    have hb' : dropTrailing b.toList = [] := dropTrailing_eq_nil.2 (dropLeading_eq_nil.1 hb)
    have hleft : dropTrailing (dropTrailing a.toList ++ ['/']) = dropTrailing a.toList :=
      (dropTrailing_slashes 1 _).trans (dropTrailing_dropTrailing _)
    have hright : dropLeading ('/' :: dropLeading c.toList) = dropLeading c.toList :=
      (dropLeading_slashes 1 _).trans (dropLeading_dropLeading _)
    rw [hb, hb', hleft, List.nil_append, hright]
  · have hmiddle : dropTrailing (dropLeading b.toList) ≠ [] := by
      intro hnil
      have hnil' := dropLeading_eq_nil.2 (dropTrailing_eq_nil.1 hnil)
      rw [dropLeading_dropLeading] at hnil'
      exact hb hnil'
    have hleft : dropTrailing (dropTrailing a.toList ++ '/' :: dropLeading b.toList) =
        dropTrailing a.toList ++ '/' :: dropTrailing (dropLeading b.toList) := by
      rw [List.append_cons, dropTrailing_append, if_neg hmiddle, ← List.append_cons]
    rw [hleft, dropLeading_append, ← dropTrailing_dropLeading, if_neg hmiddle, List.append_assoc]
    rfl

/-- **Joining is associative and puts one slash at the seam.**  Slashes at the end of
the first part and at the start of the second make no difference, and the path is the
first without those, one slash, and the second without those. -/
theorem join_assoc_and_seam :
    (∀ a b c, join (join a b) c = join a (join b c)) ∧
    (∀ a b n m, join (a ++ slashes n) (slashes m ++ b) = join a b) ∧
    ∀ a b, ∃ folder file, IsTrimmed a folder ∧ IsTrimmedLeft b file ∧
      join a b = folder ++ "/" ++ file :=
  ⟨join_join, join_slashes, fun a b =>
    ⟨_, _, isTrimmed_dropTrailing a, isTrimmedLeft_dropLeading b, join_eq a b⟩⟩

/-- A middle of slashes leaves one of the two slashes around it, not both. -/
example : join (join "a//" "//") "/b" = "a/b" ∧ join "a//" (join "//" "/b") = "a/b" := by
  decide +kernel

end SourcePath

end BracketTemplate
