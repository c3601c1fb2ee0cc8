/-
# The lines that are left

A text is the same as its lines: they give it when they are joined again, and a
list of lines is got back from its join unless it is empty (`lines_joinLines`).
So it is enough to say what becomes of the lines.  Those that are kept
(`keptLines`) are the lines of what is left, if there is one at all
(`lines_stripBlankLines`), and a text without any becomes empty, which is not a
text without lines but one with a single empty line.

| text | kept lines | what is left |
| --- | --- | --- |
| empty, or newlines only | none | empty |
| `a`, newline | `a` | `a` |
| newline, `a`, two newlines, `b` | `a`, `b` | `a`, newline, `b` |

A newline at an end of a text, or beside another one, has an empty line next to
it (`nil_mem_lines`), and an empty line is blank.
-/

import BracketTemplate.Text.Fields
import BracketTemplate.Text.Lines

namespace BracketTemplate

namespace Text

/-- The lines of a text that have a character other than white space. -/
def keptLines (text : String) : List (List Char) :=
  (lines text.toList).filter fun line => !isBlank line

theorem stripBlankLines_eq (text : String) :
    stripBlankLines text = String.ofList (joinLines (keptLines text)) := rfl

theorem joinLines_lines (cs : List Char) : joinLines (lines cs) = cs :=
  List.intercalate_splitOn '\n'

/-- Lines are got back from their join, if there are any. -/
theorem lines_joinLines {ls : List (List Char)} (hne : ls ≠ []) (h : ∀ line ∈ ls, '\n' ∉ line) :
    lines (joinLines ls) = ls := List.splitOn_intercalate '\n' h hne

/-- The lines of two texts with a newline between them are those of the one and the
other. -/
theorem lines_append (a b : List Char) : lines (a ++ '\n' :: b) = lines a ++ lines b :=
  List.splitOn_append_cons_self a b

theorem not_mem_of_mem_lines {cs line : List Char} (h : line ∈ lines cs) : '\n' ∉ line :=
  fun hc => (mem_and_ne_of_mem_splitOn h hc).2 rfl

section

variable {text : String}

theorem mem_keptLines {line : List Char} :
    line ∈ keptLines text ↔ line ∈ lines text.toList ∧ isBlank line = false := by
  rw [keptLines, List.mem_filter, Bool.not_eq_true']

theorem keptLines_eq_nil :
    keptLines text = [] ↔ ∀ line ∈ lines text.toList, isBlank line = true := by
  simp [keptLines]

/-- **The lines of what is left are the lines that are kept.** -/
theorem lines_stripBlankLines (h : keptLines text ≠ []) :
    lines (stripBlankLines text).toList = keptLines text := by
  rw [stripBlankLines_eq, String.toList_ofList]
  exact lines_joinLines h fun line hline => not_mem_of_mem_lines (mem_keptLines.1 hline).1

/-- Nothing is left of blank lines. -/
theorem stripBlankLines_of_keptLines (h : keptLines text = []) : stripBlankLines text = "" := by
  rw [stripBlankLines_eq, h]
  rfl

/-- What is left has the same lines to keep. -/
theorem keptLines_stripBlankLines (text : String) :
    keptLines (stripBlankLines text) = keptLines text := by
  by_cases h : keptLines text = []
  · rw [stripBlankLines_of_keptLines h, h]
    decide
  · rw [keptLines, lines_stripBlankLines h, keptLines, List.filter_filter]
    simp only [Bool.and_self]

theorem stripBlankLines_eq_empty : stripBlankLines text = "" ↔ keptLines text = [] := by
  refine ⟨fun h => ?_, stripBlankLines_of_keptLines⟩
  rw [← keptLines_stripBlankLines, h]
  decide

/-- What is left has no empty line, if anything is left. -/
theorem nil_not_mem_lines (h : stripBlankLines text ≠ "") :
    [] ∉ lines (stripBlankLines text).toList := by
  intro hmem
  rw [lines_stripBlankLines (mt stripBlankLines_eq_empty.2 h)] at hmem
  cases (mem_keptLines.1 hmem).2

end

/-- There is an empty line beside a newline that another one follows, or at an end. -/
theorem nil_mem_lines {pre post : List Char}
    (h : pre = [] ∨ post = [] ∨ ∃ rest, post = '\n' :: rest) :
    [] ∈ lines (pre ++ '\n' :: post) := by
  have hnil : [] ∈ lines [] := List.mem_singleton_self []
  rw [lines_append, List.mem_append]
  rcases h with rfl | rfl | ⟨rest, rfl⟩
  · exact .inl hnil
  · exact .inr hnil
  · have hlines : lines ('\n' :: rest) = lines [] ++ lines rest := lines_append [] rest
    rw [hlines]
    exact .inr (List.mem_append_left _ hnil)

/-- **No newline without a line.**  What is left of a text has no newline at its
start, at its end or after another one. -/
theorem stripBlankLines_ne (text : String) {pre post : List Char}
    (h : pre = [] ∨ post = [] ∨ ∃ rest, post = '\n' :: rest) :
    (stripBlankLines text).toList ≠ pre ++ '\n' :: post := by
  intro heq
  have hne : stripBlankLines text ≠ "" := by
    intro hempty
    rw [hempty] at heq
    exact absurd heq.symm (List.append_ne_nil_of_right_ne_nil pre (List.cons_ne_nil _ _))
  refine nil_not_mem_lines hne ?_
  rw [heq]
  exact nil_mem_lines h

theorem keptLines_append (a b : String) :
    keptLines (a ++ "\n" ++ b) = keptLines a ++ keptLines b := by
  have htext : (a ++ "\n" ++ b).toList = a.toList ++ '\n' :: b.toList := by
    rw [String.toList_append, String.toList_append, List.append_assoc]
    rfl
  rw [keptLines, htext, lines_append, List.filter_append]
  rfl

/-- **Two texts with a newline between them are stripped one by one.** -/
theorem stripBlankLines_append (a b : String) :
    stripBlankLines (a ++ "\n" ++ b) =
      if stripBlankLines a = "" then stripBlankLines b
      else if stripBlankLines b = "" then stripBlankLines a
      else stripBlankLines a ++ "\n" ++ stripBlankLines b := by
  rw [stripBlankLines_eq, keptLines_append]
  split
  · rename_i ha
    rw [stripBlankLines_eq_empty.1 ha, List.nil_append]
    rfl
  · rename_i ha
    split
    · rename_i hb
      rw [stripBlankLines_eq_empty.1 hb, List.append_nil]
      rfl
    · -- the kept lines are those of the two results, so their join is a join of the two
      rename_i hb
      rw [← lines_stripBlankLines (mt stripBlankLines_eq_empty.2 ha),
        ← lines_stripBlankLines (mt stripBlankLines_eq_empty.2 hb), ← lines_append,
        joinLines_lines, String.ofList_append, String.ofList_cons, String.ofList_toList,
        String.ofList_toList, String.append_assoc]
      rfl

/-- **Stripping keeps exactly the lines that are not blank.**  They are the lines of
what is left, in order and as they were, and nothing is left if there are none.  So
there is nothing more to strip, what is left has no newline at its ends and no two in
a row, and two texts with a newline between them are stripped one by one. -/
theorem stripBlankLines_keeps (text : String) :
    ((∃ line ∈ lines text.toList, isBlank line = false) →
      lines (stripBlankLines text).toList =
        (lines text.toList).filter fun line => !isBlank line) ∧
    ((∀ line ∈ lines text.toList, isBlank line = true) → stripBlankLines text = "") ∧
    stripBlankLines (stripBlankLines text) = stripBlankLines text ∧
    ¬ ['\n'] <+: (stripBlankLines text).toList ∧ ¬ ['\n'] <:+ (stripBlankLines text).toList ∧
    ¬ ['\n', '\n'] <:+: (stripBlankLines text).toList ∧
    ∀ other, stripBlankLines (text ++ "\n" ++ other) =
      if stripBlankLines text = "" then stripBlankLines other
      else if stripBlankLines other = "" then stripBlankLines text
      else stripBlankLines text ++ "\n" ++ stripBlankLines other := by
  refine ⟨?_, fun h => ?_, ?_, ?_, ?_, ?_, stripBlankLines_append text⟩
  · rintro ⟨line, hline, hblank⟩
    have hkept : keptLines text ≠ [] := List.ne_nil_of_mem (mem_keptLines.2 ⟨hline, hblank⟩)
    exact lines_stripBlankLines hkept
  · exact stripBlankLines_of_keptLines (keptLines_eq_nil.2 h)
  · rw [stripBlankLines_eq, keptLines_stripBlankLines, ← stripBlankLines_eq]
  · rintro ⟨post, hpost⟩
    exact stripBlankLines_ne text (.inl rfl) hpost.symm
  · rintro ⟨pre, hpre⟩
    exact stripBlankLines_ne text (.inr (.inl rfl)) hpre.symm
  · rintro ⟨pre, post, hboth⟩
    rw [List.append_assoc] at hboth
    exact stripBlankLines_ne text (.inr (.inr ⟨post, rfl⟩)) hboth.symm

/-- A carriage return makes no line of its own and stays where it is, a no-break
space is blank, a space of no width is not. -/
theorem stripBlankLines_keeps_returns :
    (∃ line ∈ lines "\r\n\n a\r\n\u00a0\n\u200b\n".toList, isBlank line = false) ∧
    lines (stripBlankLines "\r\n\n a\r\n\u00a0\n\u200b\n").toList =
      [" a\r".toList, "\u200b".toList] ∧
    (∀ line ∈ lines "\u3000\n\r\n".toList, isBlank line = true) ∧
    stripBlankLines "\u3000\n\r\n" = "" := by
  have hkept : ∃ line ∈ lines "\r\n\n a\r\n\u00a0\n\u200b\n".toList, isBlank line = false :=
    ⟨" a\r".toList, by decide, by decide⟩
  have hblank : ∀ line ∈ lines "\u3000\n\r\n".toList, isBlank line = true := by decide
  refine ⟨hkept, ?_, hblank, (stripBlankLines_keeps "\u3000\n\r\n").2.1 hblank⟩
  rw [(stripBlankLines_keeps "\r\n\n a\r\n\u00a0\n\u200b\n").1 hkept]
  decide

end Text

end BracketTemplate
