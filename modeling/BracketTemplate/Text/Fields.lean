/-
# Fields of a line of text

Splitting a text at a character and taking the white space off its ends.
-/

import BracketTemplate.Text.Blank

namespace BracketTemplate

/-- What is between two separators is in the list and holds no separator. -/
theorem mem_and_ne_of_mem_splitOn {a c : Char} {cs segment : List Char}
    (h : segment ∈ cs.splitOn a) (hc : c ∈ segment) : c ∈ cs ∧ c ≠ a := by
  induction cs generalizing segment with
  | nil =>
    rw [List.splitOn_nil, List.mem_singleton] at h
    rw [h] at hc
    exact absurd hc List.not_mem_nil
  | cons x rest ih =>
    rw [List.splitOn_cons_eq_if_modifyHead] at h
    split at h
    · rcases List.mem_cons.1 h with rfl | h
      · exact absurd hc List.not_mem_nil
      · exact (ih h hc).imp_left (List.mem_cons_of_mem x)
    · rename_i hx
      cases hsplit : rest.splitOn a with
      | nil => exact absurd hsplit (List.splitOn_ne_nil a rest)
      | cons first others =>
        rw [hsplit] at ih
        rw [hsplit, List.modifyHead_cons] at h
        rcases List.mem_cons.1 h with rfl | h
        · rcases List.mem_cons.1 hc with rfl | hc
          · exact ⟨List.mem_cons_self, fun heq => hx (beq_iff_eq.2 heq)⟩
          · exact (ih List.mem_cons_self hc).imp_left (List.mem_cons_of_mem x)
        · exact (ih (List.mem_cons_of_mem first h) hc).imp_left (List.mem_cons_of_mem x)

namespace Text

/-- The pieces between the occurrences of a character; there is always one. -/
def fields (c : Char) (text : List Char) : List (List Char) := text.splitOn c

/-- The text without the white space at its ends. -/
def trim (text : List Char) : List Char :=
  ((text.dropWhile isBlankChar).reverse.dropWhile isBlankChar).reverse

end Text

end BracketTemplate
