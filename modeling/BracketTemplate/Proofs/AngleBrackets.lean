/-
# Angle brackets and their spellings

`escapeAngles` goes through a text twice, first for `<` and then for `>`.  Neither
spelling has an angle bracket, so the second pass undoes nothing of the first and
the two come to one substitution, character by character (`toList_escapeAngles`).

| character | spelling |
| --- | --- |
| `<` | `&lt;` |
| `>` | `&gt;` |
| any other | itself |

The way back is a search for the spellings (`replaceFrom`).  A spelling starts with
`&` and has no other one in it, so a spelling that is found has not been put together
from the end of one that was written and what stands behind it.  It is one that was
written (`replaceFrom_replaceChar`), or one that was in the text before
(`infix_of_infix_replaceChar`); and if none was, all that is found is what was
written, and the text comes back.
-/

import BracketTemplate.Text.Markup
import Mathlib

namespace BracketTemplate

namespace Text

/-! ## One pass -/


/-- Whether a text has no angle bracket. -/
def NoAngles (text : String) : Prop := '<' ∉ text.toList ∧ '>' ∉ text.toList

theorem noAngles_append {a b : String} (ha : NoAngles a) (hb : NoAngles b) :
    NoAngles (a ++ b) := by
  unfold NoAngles
  rw [String.toList_append, List.mem_append, List.mem_append]
  exact ⟨fun h => h.elim ha.1 hb.1, fun h => h.elim ha.2 hb.2⟩

/-- A part of a text without angle brackets has none. -/
theorem NoAngles.of_subset {text : String} (h : NoAngles text) {part : List Char}
    (hpart : part ⊆ text.toList) : NoAngles (String.ofList part) := by
  unfold NoAngles
  rw [String.toList_ofList]
  exact ⟨fun hc => h.1 (hpart hc), fun hc => h.2 (hpart hc)⟩

/-- After a replacement there are the other characters and those of the spelling. -/
theorem mem_replaceChar {c x : Char} {spelling text : List Char} :
    x ∈ replaceChar c spelling text ↔ (x ∈ text ∧ x ≠ c) ∨ (c ∈ text ∧ x ∈ spelling) := by
  unfold replaceChar
  rw [List.mem_flatMap]
  constructor
  · rintro ⟨d, hd, hx⟩
    by_cases hdc : d = c
    · rw [if_pos hdc] at hx
      exact .inr ⟨hdc ▸ hd, hx⟩
    · rw [if_neg hdc, List.mem_singleton] at hx
      subst hx
      exact .inl ⟨hd, hdc⟩
  · rintro (⟨hx, hne⟩ | ⟨hc, hx⟩)
    · exact ⟨x, hx, by rw [if_neg hne]; exact List.mem_singleton_self x⟩
    · exact ⟨c, hc, by rw [if_pos rfl]; exact hx⟩

/-- **Where angle brackets are spelled out there are none.** -/
theorem noAngles_escapeAngles (text : String) : NoAngles (escapeAngles text) := by
  unfold NoAngles escapeAngles
  rw [String.toList_ofList]
  constructor
  · intro h
    rcases mem_replaceChar.1 h with ⟨h, -⟩ | ⟨-, h⟩
    · rcases mem_replaceChar.1 h with ⟨-, hne⟩ | ⟨-, h⟩
      · exact hne rfl
      · exact absurd h (by decide)
    · exact absurd h (by decide)
  · intro h
    rcases mem_replaceChar.1 h with ⟨-, hne⟩ | ⟨-, h⟩
    · exact hne rfl
    · exact absurd h (by decide)

/-- Angle brackets are spelled out one by one. -/
theorem escapeAngles_append (a b : String) :
    escapeAngles (a ++ b) = escapeAngles a ++ escapeAngles b := by
  unfold escapeAngles replaceChar
  rw [String.toList_append, List.flatMap_append, List.flatMap_append, String.ofList_append]

theorem replaceChar_cons_self (c : Char) (spelling rest : List Char) :
    replaceChar c spelling (c :: rest) = spelling ++ replaceChar c spelling rest := by
  rw [replaceChar, List.flatMap_cons, if_pos rfl]
  rfl

theorem replaceChar_cons_of_ne {c d : Char} (h : d ≠ c) (spelling rest : List Char) :
    replaceChar c spelling (d :: rest) = d :: replaceChar c spelling rest := by
  rw [replaceChar, List.flatMap_cons, if_neg h]
  rfl

/-- A replacement of what is not there changes nothing. -/
theorem replaceChar_of_not_mem {c : Char} {text : List Char} (h : c ∉ text)
    (spelling : List Char) : replaceChar c spelling text = text := by
  induction text with
  | nil => rfl
  | cons d rest ih =>
    obtain ⟨hne, hrest⟩ := not_or.1 (mt List.mem_cons.2 h)
    rw [replaceChar_cons_of_ne (Ne.symm hne), ih hrest]

theorem NoAngles.escapeAngles_eq {text : String} (h : NoAngles text) :
    escapeAngles text = text := by
  rw [escapeAngles, replaceChar_of_not_mem h.1, replaceChar_of_not_mem h.2, String.ofList_toList]

/-- **What is spelled out already stays as it is.** -/
theorem escapeAngles_escapeAngles (text : String) :
    escapeAngles (escapeAngles text) = escapeAngles text :=
  (noAngles_escapeAngles text).escapeAngles_eq

/-! ## Both passes at once -/

/-- How a character is written in markup. -/
def markupSpelling (c : Char) : List Char :=
  if c = '<' then ['&', 'l', 't', ';'] else if c = '>' then ['&', 'g', 't', ';'] else [c]

/-- Two passes, for different characters, of which the first writes nothing that the
second replaces. -/
theorem replaceChar_replaceChar {c d : Char} {u v : List Char} (hd : d ∉ u) (text : List Char) :
    replaceChar d v (replaceChar c u text) =
      text.flatMap fun x => if x = c then u else if x = d then v else [x] := by
  unfold replaceChar
  rw [List.flatMap_assoc]
  refine List.flatMap_congr fun x _ => ?_
  by_cases hx : x = c
  · rw [if_pos hx, if_pos hx]
    exact replaceChar_of_not_mem hd v
  · rw [if_neg hx, if_neg hx, List.flatMap_singleton]

/-- **The two passes are one substitution.** -/
theorem toList_escapeAngles (text : String) :
    (escapeAngles text).toList = text.toList.flatMap markupSpelling := by
  rw [escapeAngles, String.toList_ofList]
  exact replaceChar_replaceChar (by decide) text.toList

/-- So they may be made in the other order. -/
theorem toList_escapeAngles_swap (text : String) :
    (escapeAngles text).toList =
      replaceChar '<' ['&', 'l', 't', ';'] (replaceChar '>' ['&', 'g', 't', ';'] text.toList) := by
  rw [toList_escapeAngles, replaceChar_replaceChar (by decide)]
  refine List.flatMap_congr fun x _ => ?_
  unfold markupSpelling
  by_cases hx : x = '<'
  · subst hx
    rfl
  · rw [if_neg hx, if_neg hx]

/-! ## The way back -/

/-- The text with `new` in place of every `old` that a search from the left finds,
one behind the other; the first `skip` characters belong to the one found last. -/
def replaceFrom (old new : List Char) : (skip : Nat) → List Char → List Char
  | _, [] => []
  | skip + 1, _ :: rest => replaceFrom old new skip rest
  | 0, c :: rest =>
    if old <+: c :: rest then new ++ replaceFrom old new (old.length - 1) rest
    else c :: replaceFrom old new 0 rest

/-- The text with `new` in place of every `old`. -/
def replaceText (old new text : String) : String :=
  String.ofList (replaceFrom old.toList new.toList 0 text.toList)

theorem toList_replaceText (old new text : String) :
    (replaceText old new text).toList = replaceFrom old.toList new.toList 0 text.toList :=
  String.toList_ofList

section WayBack

variable {a c d : Char} {v w old new : List Char}

theorem replaceFrom_skip (skip : Nat) (text : List Char) :
    replaceFrom old new skip text = replaceFrom old new 0 (text.drop skip) := by
  induction text generalizing skip with
  | nil => rw [List.drop_nil, replaceFrom, replaceFrom]
  | cons x rest ih =>
    cases skip with
    | zero => rfl
    | succ skip => rw [replaceFrom, ih, List.drop_succ_cons]

/-- What is found in front is replaced, and the search goes on behind it. -/
theorem replaceFrom_append (rest : List Char) :
    replaceFrom (a :: w) new 0 (a :: w ++ rest) = new ++ replaceFrom (a :: w) new 0 rest := by
  have hfound : a :: w <+: a :: (w ++ rest) := List.prefix_append (a :: w) rest
  rw [List.cons_append, replaceFrom, if_pos hfound, replaceFrom_skip, List.length_cons,
    Nat.add_sub_cancel, List.drop_left]

theorem replaceFrom_cons {rest : List Char} (h : ¬ old <+: c :: rest) :
    replaceFrom old new 0 (c :: rest) = c :: replaceFrom old new 0 rest := by
  rw [replaceFrom, if_neg h]

/-- To replace a text of one character is to replace the character. -/
theorem replaceFrom_singleton (text : List Char) :
    replaceFrom [c] new 0 text = replaceChar c new text := by
  induction text with
  | nil => rfl
  | cons x rest ih =>
    by_cases hx : x = c
    · subst hx
      rw [replaceChar_cons_self, ← ih]
      exact replaceFrom_append rest
    · have hother : ¬ [c] <+: x :: rest := fun h => hx (List.cons_prefix_cons.1 h).1.symm
      rw [replaceChar_cons_of_ne hx, replaceFrom_cons hother, ih]

/-- What stands in front after a replacement stood there before, if the character
with which the spelling starts is not in it. -/
theorem prefix_of_prefix_replaceChar (ha : a ∉ v) {text : List Char}
    (h : v <+: replaceChar c (a :: w) text) : v <+: text := by
  induction text generalizing v with
  | nil => exact h
  | cons x rest ih =>
    cases v with
    | nil => exact List.nil_prefix
    | cons y v =>
      obtain ⟨hay, hav⟩ := not_or.1 (mt List.mem_cons.2 ha)
      by_cases hx : x = c
      · -- a spelling is written here, and it starts with a character that `v` does not have
        rw [hx, replaceChar_cons_self, List.cons_append] at h
        exact absurd (List.cons_prefix_cons.1 h).1.symm hay
      · rw [replaceChar_cons_of_ne hx] at h
        obtain ⟨rfl, htail⟩ := List.cons_prefix_cons.1 h
        exact List.cons_prefix_cons.2 ⟨rfl, ih hav htail⟩

/-- The same where the character in front is not replaced. -/
theorem prefix_of_prefix_cons (ha : a ∉ v) {x : Char} {rest : List Char}
    (h : a :: v <+: x :: replaceChar c (a :: w) rest) : a :: v <+: x :: rest := by
  obtain ⟨rfl, htail⟩ := List.cons_prefix_cons.1 h
  exact List.cons_prefix_cons.2 ⟨rfl, prefix_of_prefix_replaceChar ha htail⟩

/-- **A search for a spelling finds what was written**, in a text that did not have
the spelling in it. -/
theorem replaceFrom_replaceChar (ha : a ∉ w) {text : List Char} (h : ¬ a :: w <:+: text) :
    replaceFrom (a :: w) [c] 0 (replaceChar c (a :: w) text) = text := by
  induction text with
  | nil => rfl
  | cons x rest ih =>
    obtain ⟨hfront, hrest⟩ := not_or.1 (mt List.infix_cons_iff.2 h)
    by_cases hx : x = c
    · rw [hx, replaceChar_cons_self, replaceFrom_append, ih hrest]
      rfl
    · have hother : ¬ a :: w <+: x :: replaceChar c (a :: w) rest :=
        mt (prefix_of_prefix_cons ha) hfront
      rw [replaceChar_cons_of_ne hx, replaceFrom_cons hother, ih hrest]

/-- A text does not begin among characters that do not have its first one. -/
theorem infix_of_infix_append (ha : a ∉ w) {text : List Char} (h : a :: v <:+: w ++ text) :
    a :: v <:+: text := by
  induction w with
  | nil => exact h
  | cons x w ih =>
    obtain ⟨hax, haw⟩ := not_or.1 (mt List.mem_cons.2 ha)
    rcases List.infix_cons_iff.1 h with hfront | hrest
    · exact absurd (List.cons_prefix_cons.1 hfront).1 hax
    · exact ih haw hrest

/-- **A replacement writes no other spelling.**  A spelling that is in the text after
it, and is not the one that was written, was there before. -/
theorem infix_of_infix_replaceChar (ha : a ∉ v) (haw : a ∉ w) (hlength : v.length = w.length)
    (hne : v ≠ w) {text : List Char} (h : a :: v <:+: replaceChar c (a :: w) text) :
    a :: v <:+: text := by
  induction text with
  | nil => exact h
  | cons x rest ih =>
    by_cases hx : x = c
    · rw [hx, replaceChar_cons_self, List.cons_append] at h
      refine List.infix_cons (ih ?_)
      rcases List.infix_cons_iff.1 h with hfront | hrest
      · -- it stands where the other was written and is as long, so it is the other
        obtain ⟨more, hmore⟩ := (List.cons_prefix_cons.1 hfront).2
        exact absurd (List.append_inj_left hmore hlength) hne
      · exact infix_of_infix_append haw hrest
    · rw [replaceChar_cons_of_ne hx] at h
      rcases List.infix_cons_iff.1 h with hfront | hrest
      · exact (prefix_of_prefix_cons ha hfront).isInfix
      · exact List.infix_cons (ih hrest)

/-- Two spellings are undone one after the other, the one that was written last
first. -/
theorem replaceFrom_replaceFrom (ha : a ∉ v) (haw : a ∉ w) (hlength : v.length = w.length)
    (hne : v ≠ w) {text : List Char} (hv : ¬ a :: v <:+: text) (hw : ¬ a :: w <:+: text) :
    replaceFrom (a :: w) [d] 0
      (replaceFrom (a :: v) [c] 0
        (replaceChar c (a :: v) (replaceChar d (a :: w) text))) = text := by
  have hwritten : ¬ a :: v <:+: replaceChar d (a :: w) text :=
    mt (infix_of_infix_replaceChar ha haw hlength hne) hv
  rw [replaceFrom_replaceChar ha hwritten, replaceFrom_replaceChar haw hw]

end WayBack

/-- **Spelling out angle brackets is a substitution that can be undone.**  The two
passes, each a search through the whole text, come to one substitution character by
character.  So the result has no angle brackets, a second time changes nothing, and a
text is spelled out part by part.  If neither spelling is in the text before, to
replace them by the brackets, in either order, gives the text back. -/
theorem escapeAngles_eq_substitution (text : String) :
    escapeAngles text = replaceText ">" "&gt;" (replaceText "<" "&lt;" text) ∧
    escapeAngles text = String.ofList (text.toList.flatMap markupSpelling) ∧
    '<' ∉ (escapeAngles text).toList ∧ '>' ∉ (escapeAngles text).toList ∧
    escapeAngles (escapeAngles text) = escapeAngles text ∧
    (∀ other, escapeAngles (text ++ other) = escapeAngles text ++ escapeAngles other) ∧
    (¬ "&lt;".toList <:+: text.toList → ¬ "&gt;".toList <:+: text.toList →
      replaceText "&gt;" ">" (replaceText "&lt;" "<" (escapeAngles text)) = text ∧
      replaceText "&lt;" "<" (replaceText "&gt;" ">" (escapeAngles text)) = text) := by
  have hless : "<".toList = ['<'] ∧ "&lt;".toList = ['&', 'l', 't', ';'] := ⟨rfl, rfl⟩
  have hgreater : ">".toList = ['>'] ∧ "&gt;".toList = ['&', 'g', 't', ';'] := ⟨rfl, rfl⟩
  refine ⟨?_, ?_, (noAngles_escapeAngles text).1, (noAngles_escapeAngles text).2,
    escapeAngles_escapeAngles text, escapeAngles_append text, fun hlt hgt => ?_⟩
  · rw [← String.toList_inj, toList_replaceText, toList_replaceText, hless.1, hless.2, hgreater.1,
      hgreater.2, replaceFrom_singleton, replaceFrom_singleton]
    exact String.toList_ofList
  · rw [← toList_escapeAngles, String.ofList_toList]
  · rw [hless.2] at hlt
    rw [hgreater.2] at hgt
    rw [← String.toList_inj, ← String.toList_inj, toList_replaceText, toList_replaceText,
      toList_replaceText, toList_replaceText, hless.1, hless.2, hgreater.1, hgreater.2]
    constructor
    · rw [toList_escapeAngles_swap]
      exact replaceFrom_replaceFrom (by decide) (by decide) (by decide) (by decide) hlt hgt
    · rw [escapeAngles, String.toList_ofList]
      exact replaceFrom_replaceFrom (by decide) (by decide) (by decide) (by decide) hgt hlt

/-- Brackets among the characters of which the spellings are made. -/
theorem escapeAngles_eq_substitution_pieces :
    ¬ "&lt;".toList <:+: "&<lt;&g>t;&l".toList ∧ ¬ "&gt;".toList <:+: "&<lt;&g>t;&l".toList ∧
    escapeAngles "&<lt;&g>t;&l" = "&&lt;lt;&g&gt;t;&l" ∧
    replaceText "&gt;" ">" (replaceText "&lt;" "<" "&&lt;lt;&g&gt;t;&l") = "&<lt;&g>t;&l" := by
  have hless : ¬ "&lt;".toList <:+: "&<lt;&g>t;&l".toList := by decide
  have hgreater : ¬ "&gt;".toList <:+: "&<lt;&g>t;&l".toList := by decide
  obtain ⟨-, hescape, -, -, -, -, hback⟩ := escapeAngles_eq_substitution "&<lt;&g>t;&l"
  have hescape' : escapeAngles "&<lt;&g>t;&l" = "&&lt;lt;&g&gt;t;&l" := by
    rw [hescape]
    decide
  refine ⟨hless, hgreater, hescape', ?_⟩
  rw [← hescape']
  exact (hback hless hgreater).1

end Text

end BracketTemplate
