/-
# What a directive looks like

A text starts with a directive if it starts with `[[ body ]]`, where the body is
not empty and has body characters only (`IsBody`).  `Directive.body?` takes the
longest run of body characters, and `body?_eq_some_iff` says that nothing is
lost by that: the closing starts with a space, which is no body character.

The two brackets at the start are the only `[[` of a directive, and it ends with
`]`.  So of two directives in one text the later one starts where the other has
ended or after it (`spelling_disjoint`); all that is said about the order, the
completeness and the seams of scans comes from this.
-/

import BracketTemplate.Template
import Mathlib

namespace BracketTemplate

namespace Directive

/-- Whether a list of characters can stand between the brackets. -/
def IsBody (body : List Char) : Prop := body ≠ [] ∧ ∀ c ∈ body, isBodyChar c = true

/-- The body of a directive: its segments with a colon between two. -/
def body (d : Directive) : List Char :=
  [':'].intercalate ((d.keyword :: d.args).map String.toList)

/-- The segments of a body, put together again, are the body. -/
@[simp] theorem body_ofBody (body : List Char) (start line : Nat) :
    (ofBody body start line).body = body := by
  have h : body.splitOn ':' ≠ [] := List.splitOn_ne_nil ':' body
  have hj : [':'].intercalate (body.splitOn ':') = body := List.intercalate_splitOn ':'
  cases hs : body.splitOn ':' with
  | nil => exact absurd hs h
  | cons first rest =>
    rw [hs] at hj
    simpa [ofBody, Directive.body, hs, Function.comp_def] using hj

/-- The body stays the same further down in a longer text. -/
@[simp] theorem body_shift (d : Directive) (bytes newlines : Nat) :
    (d.shift bytes newlines).body = d.body := rfl

/-- A directive made from its body further down is the shifted one. -/
theorem ofBody_shift (body : List Char) (start line bytes newlines : Nat) :
    (ofBody body start line).shift bytes newlines =
      ofBody body (start + bytes) (line + newlines) := by
  simp only [ofBody, shift, Directive.mk.injEq, true_and, and_true]
  omega

theorem length_spelling (body : List Char) : (spelling body).length = body.length + 6 := by
  simp only [spelling, opening, closing, List.length_append, List.length_cons, List.length_nil]
  omega

/-- A closing does not start with a body character, so a body ends before it. -/
theorem takeWhile_body {body : List Char} (h : IsBody body) (post : List Char) :
    (body ++ (closing ++ post)).takeWhile isBodyChar = body ∧
      (body ++ (closing ++ post)).dropWhile isBodyChar = closing ++ post := by
  have hspace : isBodyChar ' ' = false := by decide
  constructor
  · rw [List.takeWhile_append_of_pos h.2]
    simp [closing, hspace]
  · rw [List.dropWhile_append_of_pos h.2]
    simp [closing, hspace]

/-- **A text starts with a directive exactly when it starts with its spelling.** -/
theorem body?_eq_some_iff {text body : List Char} :
    body? text = some body ↔ IsBody body ∧ ∃ post, text = spelling body ++ post := by
  constructor
  · intro h
    unfold body? at h
    split at h
    · rename_i rest
      dsimp only at h
      split at h
      · rename_i hb
        obtain rfl := Option.some.inj h
        obtain ⟨post, hpost⟩ := List.isPrefixOf_iff_prefix.1 hb.2
        refine ⟨⟨hb.1, fun c hc => ?_⟩, post, ?_⟩
        · exact List.all_eq_true.1 List.all_takeWhile c hc
        · have hrest : rest.takeWhile isBodyChar ++ rest.dropWhile isBodyChar = rest :=
            List.takeWhile_append_dropWhile
          rw [← hpost] at hrest
          simpa [spelling, opening] using hrest.symm
      · cases h
    · cases h
  · rintro ⟨h, post, rfl⟩
    obtain ⟨htake, hdrop⟩ := takeWhile_body h post
    have hne : body ≠ [] := h.1
    have hclose : closing.isPrefixOf (closing ++ post) = true :=
      List.isPrefixOf_iff_prefix.2 (List.prefix_append _ _)
    simp only [spelling, opening, List.append_assoc, List.cons_append, List.nil_append, body?,
      htake, hdrop]
    rw [if_pos ⟨hne, hclose⟩]

/-- In a directive a `[` is one of the two characters at its start. -/
theorem lt_two_of_spelling_bracket {body : List Char} (h : IsBody body) {i : Nat}
    (hi : (spelling body)[i]? = some '[') : i < 2 := by
  by_contra hn
  obtain ⟨k, rfl⟩ : ∃ k, i = k + 2 := ⟨i - 2, by omega⟩
  have hk : (' ' :: (body ++ closing))[k]? = some '[' := by
    simpa [spelling, opening] using hi
  have hmem : '[' ∈ ' ' :: (body ++ closing) := List.mem_of_getElem? hk
  rcases List.mem_cons.1 hmem with hc | hmem
  · exact absurd hc (by decide)
  · rcases List.mem_append.1 hmem with hb | hc
    · exact absurd (h.2 _ hb) (by decide)
    · exact absurd hc (by decide)

/-- **No directive starts inside another.**  Its first two characters are `[[`,
and inside a directive there is at most one `[` in front of something else. -/
theorem spelling_disjoint {body body' pre pre' post post' : List Char} (h : IsBody body)
    (heq : pre ++ (spelling body ++ post) = pre' ++ (spelling body' ++ post'))
    (hlt : pre.length < pre'.length) : (pre ++ spelling body).length ≤ pre'.length := by
  by_contra hn
  rw [List.length_append] at hn
  obtain ⟨k, hk⟩ : ∃ k, pre'.length = pre.length + (k + 1) :=
    ⟨pre'.length - pre.length - 1, by omega⟩
  -- both texts read at a place `i` after the start of the later directive
  have hat : ∀ i, k + 1 + i < (spelling body).length → i < 3 →
      (spelling body)[k + 1 + i]? = ['[', '[', ' '][i]? := by
    intro i hi h3
    have hleft : (pre ++ (spelling body ++ post))[pre.length + (k + 1 + i)]? =
        (spelling body)[k + 1 + i]? := by
      rw [List.getElem?_append_right (by omega), Nat.add_sub_cancel_left,
        List.getElem?_append_left hi]
    have hright : (pre' ++ (spelling body' ++ post'))[pre'.length + i]? =
        ['[', '[', ' '][i]? := by
      rw [List.getElem?_append_right (by omega), Nat.add_sub_cancel_left, spelling,
        opening, List.append_assoc, List.append_assoc,
        List.getElem?_append_left (by simpa using h3)]
    rw [← hleft, heq, ← hright]
    congr 1
    omega
  have hfirst := lt_two_of_spelling_bracket h (hat 0 (by omega) (by omega))
  obtain rfl : k = 0 := by omega
  have hsecond := lt_two_of_spelling_bracket h (hat 1 (by rw [length_spelling]; omega) (by omega))
  omega

/-- Two texts that start with the same are not started by different directives. -/
theorem body_eq_of_spelling_eq {body body' post post' : List Char} (h : IsBody body)
    (h' : IsBody body') (heq : spelling body ++ post = spelling body' ++ post') : body = body' := by
  have hbody : body? (spelling body ++ post) = some body := body?_eq_some_iff.2 ⟨h, post, rfl⟩
  rw [heq, body?_eq_some_iff.2 ⟨h', post', rfl⟩] at hbody
  exact (Option.some.inj hbody).symm

/-- Whether a literal text has no directive in it. -/
def Absent (literal : List Char) : Prop :=
  ∀ pre body post, IsBody body → literal ≠ pre ++ (spelling body ++ post)

theorem absent_nil : Absent [] := by
  intro pre body post _ h
  have hlen := congrArg List.length h
  rw [List.length_append, List.length_append, length_spelling, List.length_nil] at hlen
  omega

end Directive

end BracketTemplate
