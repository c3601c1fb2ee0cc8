/-
# Quotation

What is written between marks is read back (`read_quote`), whatever characters
it holds and whichever of the four forms it takes.

Between the marks each character has its spelling: itself, or an escape
(`IsSpelling`).  On several lines a mark may also stand for itself while there
are not three in a row; `Spells` says that a body spells a string in this way.
The writer produces only such bodies (`spells_escape`, `spells_self`), and the
reader takes every one of them apart (`multilineRest_of_spells`).  Marks at the
end of a string meet the closing ones there, and it is the number of all of them
together that tells how many belong to the string (`closing?_replicate_append`).
-/

import BracketTemplate.Toml.Quoted
import BracketTemplate.Toml.Quoting
import Mathlib

namespace BracketTemplate

namespace Toml

open Quoted Quoting

/-! ## Marks -/

/-- The marks that strings stand between. -/
def IsMark (c : Char) : Prop := c = '"' ∨ c = '\''

/-- A text that does not go on with a mark. -/
def EndsMarks (rest : List Char) : Prop := ∀ mark, IsMark mark → rest.head? ≠ some mark

section Marks

variable {mark : Char}

theorem IsMark.isPlainChar (h : IsMark mark) : isPlainChar mark := by
  rcases h with rfl | rfl <;> decide

theorem IsMark.ne_newline (h : IsMark mark) : mark ≠ '\n' ∧ mark ≠ '\r' := by
  rcases h with rfl | rfl <;> decide

theorem IsMark.ne_backslash (h : IsMark mark) : mark ≠ '\\' := by
  rcases h with rfl | rfl <;> decide

/-- Nothing starts a newline but the two characters that newlines are made of. -/
theorem newline?_eq_none {c : Char} (h : c ≠ '\n' ∧ c ≠ '\r') (rest : List Char) :
    newline? (c :: rest) = none := by
  unfold newline?
  split <;> simp_all

theorem takeWhile_replicate_append {rest : List Char} (h : rest.head? ≠ some mark) (k : Nat) :
    (List.replicate k mark ++ rest).takeWhile (· == mark) = List.replicate k mark := by
  rw [List.takeWhile_append_of_pos (by simp)]
  cases rest with
  | nil => simp
  | cons c rest =>
    have hc : c ≠ mark := by simpa using h
    simp [hc]

/-- Up to two marks in front of the closing ones belong to the string. -/
theorem closing?_replicate_append {rest : List Char} (h : rest.head? ≠ some mark) {k : Nat}
    (hk : k ≤ 2) :
    closing? mark (List.replicate k mark ++ mark :: mark :: mark :: rest) =
      some (List.replicate k mark, rest) := by
  have hrun : List.replicate k mark ++ mark :: mark :: mark :: rest =
      List.replicate (k + 3) mark ++ rest := by
    simp [List.replicate_add]
  have hkept : min k 2 = k := by omega
  rw [hrun]
  simp [closing?, takeWhile_replicate_append h, hkept]

/-- Up to two marks in front of another character close nothing. -/
theorem closing?_eq_none {rest : List Char} (h : rest.head? ≠ some mark) {k : Nat} (hk : k ≤ 2) :
    closing? mark (List.replicate k mark ++ rest) = none := by
  have hfew : ¬ 3 ≤ k := by omega
  simp [closing?, takeWhile_replicate_append h, hfew]

end Marks

/-! ## Spelling a character -/

/-- What stands for a character between marks, on one line or on several; a mark
that stands for itself is not among it. -/
inductive IsSpelling (mark : Char) (escapes multiline : Bool) (c : Char) : List Char → Prop
  /-- The character itself. -/
  | itself (hmark : c ≠ mark) (hbackslash : escapes → c ≠ '\\')
      (hplain : isPlainChar c ∨ multiline ∧ c = '\n') : IsSpelling mark escapes multiline c [c]
  /-- A backslash and what is read as the character, and not as the end of a line. -/
  | escaped {e : List Char} (hescapes : escapes)
      (hread : ∀ rest, escaped (e ++ rest) = some (c, rest))
      (hline : ∀ rest, continued? (e ++ rest) = none) :
      IsSpelling mark escapes multiline c ('\\' :: e)

/-- The digits of a code point below 128 denote it. -/
theorem hexNumber?_hexChar : ∀ n < 128,
    Reader.hexNumber? ['0', '0', hexChar (n / 16), hexChar (n % 16)] = some n := by decide

theorem escaped_codeEscape {c : Char} (h : c.toNat < 128) (rest : List Char) :
    escaped ((codeEscape c).tail ++ rest) = some (c, rest) := by
  simp [codeEscape, escaped, escaped.code, hexNumber?_hexChar c.toNat h, Reader.charOf?_toNat]

/-- An escape that does not start with a blank or newline does not end a line. -/
theorem continued?_eq_none {c : Char} (hspace : isSpace c = false) (h : c ≠ '\n' ∧ c ≠ '\r')
    (rest : List Char) : continued? (c :: rest) = none := by
  rw [continued?, List.dropWhile_cons_of_neg (by simp [hspace]), newline?_eq_none h]
  rfl

/-- The letter of an escape starts neither a code point nor the end of a line. -/
theorem letter_of_escape? {letter c : Char} (h : escape? letter = some c) :
    (letter ≠ 'u' ∧ letter ≠ 'U') ∧ isSpace letter = false ∧ letter ≠ '\n' ∧ letter ≠ '\r' := by
  unfold escape? at h
  split at h <;> cases h <;> decide

/-- An escape of one letter is a spelling of the character that it stands for. -/
theorem isSpelling_letter {mark c letter : Char} {multiline : Bool} (h : escape? letter = some c) :
    IsSpelling mark true multiline c ['\\', letter] := by
  obtain ⟨hcode, hspace, hnewline⟩ := letter_of_escape? h
  refine .escaped rfl (fun rest => ?_) (continued?_eq_none hspace hnewline)
  simp [escaped, hcode.1, hcode.2, h]

/-- What is written for a character between quotation marks spells it. -/
theorem isSpelling_spelled {c : Char} (hmark : c ≠ '"') (multiline : Bool) :
    IsSpelling '"' true multiline c (spelled multiline c) := by
  unfold spelled
  split_ifs with hb ht hn hmultiline hf hr hbackslash hcontrol
  · exact hb ▸ isSpelling_letter rfl
  · exact ht ▸ isSpelling_letter rfl
  · exact .itself hmark (fun _ => by simp [hn]) (.inr ⟨hmultiline, hn⟩)
  · exact hn ▸ isSpelling_letter rfl
  · exact hf ▸ isSpelling_letter rfl
  · exact hr ▸ isSpelling_letter rfl
  · subst hbackslash
    exact isSpelling_letter rfl
  · have hcode : c.toNat < 128 := by
      rcases hcontrol with hlow | rfl
      · exact lt_trans hlow (by decide)
      · decide
    exact .escaped rfl (escaped_codeEscape hcode) fun rest =>
      continued?_eq_none (by decide) (by decide) _
  · obtain ⟨hlow, hdelete⟩ := not_or.1 hcontrol
    refine .itself hmark (fun _ => hbackslash) (.inl ?_)
    simp [isPlainChar, Char.not_lt.1 hlow, hdelete]

/-- A spelling does not start with the mark. -/
theorem IsSpelling.exists_cons {mark c : Char} {escapes multiline : Bool} {piece : List Char}
    (hmark : IsMark mark) (h : IsSpelling mark escapes multiline c piece) :
    ∃ x more, piece = x :: more ∧ x ≠ mark := by
  cases h with
  | itself hne _ _ => exact ⟨c, [], rfl, hne⟩
  | escaped _ _ _ => exact ⟨'\\', _, rfl, hmark.ne_backslash.symm⟩

/-! ## Spelling a string -/

/-- A body between marks spells a string, after a run of marks that stand for
themselves, of which there are at most `limit` in a row. -/
inductive Spells (mark : Char) (escapes multiline : Bool) (limit : Nat) :
    (run : Nat) → List Char → List Char → Prop
  | nil (run : Nat) : Spells mark escapes multiline limit run [] []
  | mark {run : Nat} {body s : List Char} (hrun : run < limit)
      (h : Spells mark escapes multiline limit (run + 1) body s) :
      Spells mark escapes multiline limit run (mark :: body) (mark :: s)
  | char {run : Nat} {c : Char} {piece body s : List Char}
      (hpiece : IsSpelling mark escapes multiline c piece)
      (h : Spells mark escapes multiline limit 0 body s) :
      Spells mark escapes multiline limit run (piece ++ body) (c :: s)

section Spells

variable {mark : Char} {escapes multiline : Bool} {limit run : Nat} {body s : List Char}

theorem Spells.length_le (hmark : IsMark mark)
    (h : Spells mark escapes multiline limit run body s) : s.length ≤ body.length := by
  induction h with
  | nil run => simp
  | mark _ _ ih => simpa using ih
  | char hpiece _ ih =>
    obtain ⟨x, more, rfl, -⟩ := hpiece.exists_cons hmark
    simp only [List.length_cons, List.cons_append, List.length_append]
    omega

/-- A body is nothing but a few marks, or goes on with something else after a few. -/
theorem Spells.marks_or (hmark : IsMark mark)
    (h : Spells mark escapes multiline limit run body s) (hrun : run ≤ limit) :
    ∃ k ≤ limit - run, (body = List.replicate k mark ∧ s = List.replicate k mark) ∨
      ∃ x more, x ≠ mark ∧ body = List.replicate k mark ++ x :: more := by
  induction h with
  | nil run => exact ⟨0, by omega, .inl ⟨rfl, rfl⟩⟩
  | @mark run body s hlt _ ih =>
    obtain ⟨k, hk, ⟨rfl, rfl⟩ | ⟨x, more, hx, rfl⟩⟩ := ih (by omega)
    · exact ⟨k + 1, by omega, .inl ⟨rfl, rfl⟩⟩
    · exact ⟨k + 1, by omega, .inr ⟨x, more, hx, rfl⟩⟩
  | char hpiece _ _ =>
    obtain ⟨x, more, rfl, hx⟩ := hpiece.exists_cons hmark
    exact ⟨0, by omega, .inr ⟨x, more ++ _, hx, rfl⟩⟩

/-- What is written with escapes spells the string. -/
theorem spells_escape (multiline : Bool) (limit run : Nat) (s : List Char) :
    Spells '"' true multiline limit run (escape multiline limit run s) s := by
  induction s generalizing run with
  | nil => exact .nil run
  | cons c s ih =>
    by_cases hquote : c = '"'
    · subst hquote
      by_cases hrun : run < limit
      · simpa [escape, hrun] using Spells.mark hrun (ih (run + 1))
      · simpa [escape, hrun] using Spells.char (isSpelling_letter rfl) (ih 0)
    · simpa [escape, hquote] using Spells.char (isSpelling_spelled hquote multiline) (ih 0)

end Spells

/-! ## Strings on one line -/

/-- The reader takes a character in one step, however it is spelled. -/
theorem basicRest_of_isSpelling {c : Char} {piece : List Char}
    (h : IsSpelling '"' true false c piece) (fuel : Nat) (rest : List Char) :
    basicRest (fuel + 1) (piece ++ rest) =
      (basicRest fuel rest).map fun (cs, rest) => (c :: cs, rest) := by
  cases h with
  | itself hmark hbackslash hplain =>
    have hplain : isPlainChar c := by simpa using hplain
    simp [basicRest, hmark, hbackslash rfl, hplain, Option.map_eq_bind]
  | escaped _ hread _ => simp [basicRest, hread, Option.map_eq_bind]

/-- **A string on one line with escapes is read back.**  No mark stands for
itself in it. -/
theorem basicRest_of_spells {run : Nat} {body s rest : List Char}
    (h : Spells '"' true false 0 run body s) {fuel : Nat} (hfuel : s.length < fuel) :
    basicRest fuel (body ++ '"' :: rest) = some (s, rest) := by
  obtain ⟨fuel, rfl⟩ : ∃ n, fuel = n + 1 := ⟨fuel - 1, by omega⟩
  induction h generalizing fuel with
  | nil run => simp [basicRest]
  | mark hrun => exact absurd hrun (Nat.not_lt_zero _)
  | char hpiece h ih =>
    obtain ⟨fuel, rfl⟩ : ∃ n, fuel = n + 1 := ⟨fuel - 1, by simp at hfuel; omega⟩
    rw [List.append_assoc, basicRest_of_isSpelling hpiece, ih fuel (by simpa using hfuel)]
    rfl

/-- A string without apostrophes and control characters is read back as it is. -/
theorem literalRest_append {s : List Char} (h : ∀ c ∈ s, isPlainChar c ∧ c ≠ '\'')
    (rest : List Char) : literalRest (s ++ '\'' :: rest) = some (s, rest) := by
  have hs : ∀ c ∈ s, (isPlainChar c && c != '\'') = true := by simpa using h
  simp [literalRest, List.span_eq_takeWhile_dropWhile, List.takeWhile_append_of_pos hs,
    List.dropWhile_append_of_pos hs]

/-- Marks around what does not start with one are not taken for three in a row,
not even around nothing. -/
theorem read_eq_readLine {mark : Char} {body rest : List Char} (hbody : body.head? ≠ some mark)
    (hrest : rest.head? ≠ some mark) :
    Quoted.read (mark :: (body ++ mark :: rest)) = readLine (mark :: (body ++ mark :: rest)) := by
  have hfew : (body ++ mark :: rest).take 2 ≠ [mark, mark] := by
    cases body with
    | nil => cases rest <;> simp_all
    | cons c body => simp_all
  unfold Quoted.read
  split
  case h_3 => rfl
  all_goals
    rename_i hthree
    obtain ⟨rfl, hthree⟩ := List.cons.inj hthree
    exact absurd (by rw [hthree]; rfl) hfew

/-! ## Strings on several lines -/

section SeveralLines

variable {mark : Char} {escapes : Bool} {run : Nat} {body s rest : List Char}

/-- The reader takes a mark that does not close anything in one step. -/
theorem multilineRest_mark (hmark : IsMark mark) (hopen : closing? mark (mark :: rest) = none)
    (fuel : Nat) : multilineRest mark escapes (fuel + 1) (mark :: rest) =
      (multilineRest mark escapes fuel rest).map fun (cs, rest) => (mark :: cs, rest) := by
  simp [multilineRest, hopen, newline?_eq_none hmark.ne_newline, hmark.ne_backslash,
    hmark.isPlainChar, Option.map_eq_bind]

/-- The reader takes any other character in one step, however it is spelled. -/
theorem multilineRest_of_isSpelling {c : Char} {piece : List Char} (hmark : IsMark mark)
    (h : IsSpelling mark escapes true c piece) (fuel : Nat) (rest : List Char) :
    multilineRest mark escapes (fuel + 1) (piece ++ rest) =
      (multilineRest mark escapes fuel rest).map fun (cs, rest) => (c :: cs, rest) := by
  have hopen : closing? mark (piece ++ rest) = none := by
    obtain ⟨x, more, rfl, hx⟩ := h.exists_cons hmark
    exact closing?_eq_none (k := 0) (by simpa using hx) (by omega)
  cases h with
  | itself hne hbackslash hplain =>
    by_cases hn : c = '\n'
    · subst hn
      simp_all [multilineRest, newline?, Option.map_eq_bind]
    have hplain : isPlainChar c := by simpa [hn] using hplain
    have hr : c ≠ '\r' := by
      rintro rfl
      exact absurd hplain (by decide)
    have hescape : ¬(escapes ∧ c = '\\') := fun h => hbackslash h.1 h.2
    simp only [List.cons_append, List.nil_append] at hopen ⊢
    simp [multilineRest, hopen, newline?_eq_none ⟨hn, hr⟩, hescape, hplain, Option.map_eq_bind]
  | escaped hescapes hread hline =>
    simp only [List.cons_append] at hopen ⊢
    simp [multilineRest, hopen, newline?_eq_none, hescapes, hline, hread, Option.map_eq_bind]

/-- **A string on several lines is read back.** -/
theorem multilineRest_of_spells (hmark : IsMark mark) (hrest : rest.head? ≠ some mark)
    (h : Spells mark escapes true 2 run body s) (hrun : run ≤ 2) {fuel : Nat}
    (hfuel : s.length < fuel) :
    multilineRest mark escapes fuel (body ++ mark :: mark :: mark :: rest) = some (s, rest) := by
  obtain ⟨fuel, rfl⟩ : ∃ n, fuel = n + 1 := ⟨fuel - 1, by omega⟩
  induction h generalizing fuel with
  | nil run =>
    have hclose := closing?_replicate_append hrest (Nat.zero_le 2)
    simp only [List.replicate_zero, List.nil_append] at hclose ⊢
    simp [multilineRest, hclose]
  | @mark run body s hlt h ih =>
    -- The marks may run up to the closing ones, and then all of them are taken at once.
    obtain ⟨k, hk, ⟨rfl, rfl⟩ | ⟨x, more, hx, rfl⟩⟩ := h.marks_or hmark (by omega)
    · have hclose := closing?_replicate_append hrest (show k + 1 ≤ 2 by omega)
      simp only [List.replicate_succ, List.cons_append] at hclose ⊢
      simp [multilineRest, hclose]
    · obtain ⟨fuel, rfl⟩ : ∃ n, fuel = n + 1 := ⟨fuel - 1, by simp at hfuel; omega⟩
      have hopen : closing? mark (mark :: (List.replicate k mark ++ x :: more ++
          mark :: mark :: mark :: rest)) = none := by
        have hother : (x :: (more ++ mark :: mark :: mark :: rest)).head? ≠ some mark := by
          simpa using hx
        simpa [List.replicate_succ] using closing?_eq_none hother (show k + 1 ≤ 2 by omega)
      rw [List.cons_append, multilineRest_mark hmark hopen,
        ih (by omega) fuel (by simpa using hfuel)]
      rfl
  | @char run c piece body s hpiece h ih =>
    obtain ⟨fuel, rfl⟩ : ∃ n, fuel = n + 1 := ⟨fuel - 1, by simp at hfuel; omega⟩
    rw [List.append_assoc, multilineRest_of_isSpelling hmark hpiece,
      ih (by omega) fuel (by simpa using hfuel)]
    rfl

/-- A body does not start with a newline when its string has none. -/
theorem newline?_of_spells (hmark : IsMark mark) (h : Spells mark escapes true 2 run body s)
    (hs : '\n' ∉ s) (rest : List Char) : newline? (body ++ mark :: rest) = none := by
  cases h with
  | nil => exact newline?_eq_none hmark.ne_newline rest
  | mark => exact newline?_eq_none hmark.ne_newline _
  | char hpiece =>
    cases hpiece with
    | itself _ _ hplain =>
      obtain ⟨hn, -⟩ : '\n' ≠ _ ∧ _ := by simpa using hs
      refine newline?_eq_none ⟨hn.symm, ?_⟩ _
      rintro rfl
      exact absurd hplain (by decide)
    | escaped => exact newline?_eq_none (by decide) _

/-- A string on several lines is read back from after its opening marks; a
newline in front of it is not part of it. -/
theorem multiline_of_spells (hmark : IsMark mark) (hrest : rest.head? ≠ some mark)
    (h : Spells mark escapes true 2 0 body s) :
    multiline mark escapes ((if s.contains '\n' then '\n' :: body else body) ++
      mark :: mark :: mark :: rest) = some (s, rest) := by
  have hfuel : s.length < (body ++ mark :: mark :: mark :: rest).length + 1 := by
    have hlength := h.length_le hmark
    simp only [List.length_append]
    omega
  have hread := multilineRest_of_spells hmark hrest h (Nat.zero_le 2) hfuel
  unfold multiline
  by_cases hs : '\n' ∈ s
  · simpa [hs, newline?] using hread
  · simpa [hs, newline?_of_spells hmark h hs] using hread

end SeveralLines

/-! ## The forms -/

theorem le_longestRun (mark : Char) (run : Nat) (s : List Char) : run ≤ longestRun mark run s := by
  induction s generalizing run with
  | nil => exact le_rfl
  | cons c s ih =>
    rw [longestRun]
    split
    · exact (Nat.le_succ run).trans (ih (run + 1))
    · exact le_max_left ..

/-- A character that can be written as it is stands for itself. -/
theorem isPlainChar_of_not_isControl {c : Char} (h : isControl c = false) :
    isPlainChar c ∨ c = '\n' := by
  by_cases hlow : c < ' '
  · simp_all [isControl, isPlainChar]
    tauto
  · simp_all [isControl, isPlainChar]

/-- A string without control characters and without three marks in a row spells
itself. -/
theorem spells_self {mark : Char} {s : List Char} (hs : ∀ c ∈ s, isControl c = false) {run : Nat}
    (hrun : longestRun mark run s ≤ 2) : Spells mark false true 2 run s s := by
  induction s generalizing run with
  | nil => exact .nil run
  | cons c s ih =>
    obtain ⟨hc, hs⟩ := List.forall_mem_cons.1 hs
    rw [longestRun] at hrun
    split at hrun
    · rename_i hmark
      subst hmark
      exact .mark ((le_longestRun ..).trans hrun) (ih hs hrun)
    · rename_i hmark
      exact .char (.itself hmark (by simp) (by simpa using isPlainChar_of_not_isControl hc))
        (ih hs ((le_max_right ..).trans hrun))

theorem not_mem_of_longestRun_eq_zero {mark : Char} {s : List Char}
    (h : longestRun mark 0 s = 0) : mark ∉ s := by
  induction s with
  | nil => simp
  | cons c s ih =>
    rw [longestRun] at h
    split at h
    · have hle := le_longestRun mark (0 + 1) s
      omega
    · rename_i hc
      have hs : longestRun mark 0 s = 0 := by omega
      simp [Ne.symm hc, ih hs]

/-- What is written between apostrophes on one line needs no escapes. -/
theorem of_formOf_eq_literal {s : List Char} (h : formOf s = .literal) :
    ∀ c ∈ s, isPlainChar c ∧ c ≠ '\'' := by
  simp only [formOf] at h
  split_ifs at h with _ hliteral
  simp only [Bool.and_eq_true, Bool.not_eq_true', beq_iff_eq, List.any_eq_false,
    List.contains_eq_mem, decide_eq_false_iff_not] at hliteral
  obtain ⟨⟨hcontrol, hmark⟩, hnewline⟩ := hliteral
  intro c hc
  have hne : c ≠ '\'' := fun heq => not_mem_of_longestRun_eq_zero hmark (heq ▸ hc)
  have hline : c ≠ '\n' := fun heq => hnewline (heq ▸ hc)
  exact ⟨(isPlainChar_of_not_isControl (by simpa using hcontrol c hc)).resolve_right hline, hne⟩

/-- What is written between apostrophes on several lines spells itself. -/
theorem spells_of_formOf_eq_multilineLiteral {s : List Char} (h : formOf s = .multilineLiteral) :
    Spells '\'' false true 2 0 s s := by
  simp only [formOf] at h
  split_ifs at h with _ _ _ hliteral
  simp only [Bool.and_eq_true, Bool.not_eq_true', decide_eq_true_eq, List.any_eq_false]
    at hliteral
  exact spells_self (fun c hc => by simpa using hliteral.1 c hc) hliteral.2

/-- **A string that has been written is read back**, whatever it holds. -/
theorem read_quote (s : List Char) {rest : List Char} (hrest : EndsMarks rest) :
    Quoted.read (quote s ++ rest) = some (s, rest) := by
  have hquote : IsMark '"' := .inl rfl
  have hapostrophe : IsMark '\'' := .inr rfl
  unfold quote
  cases hform : formOf s with
  | basic =>
    have hspells := spells_escape false 0 0 s
    have hhead : (escape false 0 0 s).head? ≠ some '"' := by
      obtain ⟨k, hk, ⟨hbody, -⟩ | ⟨x, more, hx, hbody⟩⟩ := hspells.marks_or hquote le_rfl <;>
        obtain rfl : k = 0 := by omega
      · simp [hbody]
      · simpa [hbody] using hx
    have hline := read_eq_readLine hhead (hrest '"' hquote)
    have hfuel : s.length < (escape false 0 0 s ++ '"' :: rest).length + 1 := by
      have hlength := hspells.length_le hquote
      simp only [List.length_append]
      omega
    simp only [between, List.cons_append, List.nil_append, List.append_assoc]
    exact hline.trans (basicRest_of_spells hspells hfuel)
  | literal =>
    have hs := of_formOf_eq_literal hform
    have hhead : s.head? ≠ some '\'' := fun heq => (hs _ (List.mem_of_head? heq)).2 rfl
    have hline := read_eq_readLine hhead (hrest '\'' hapostrophe)
    simp only [between, List.cons_append, List.nil_append, List.append_assoc]
    exact hline.trans (literalRest_append hs rest)
  | multilineBasic =>
    have hread := multiline_of_spells hquote (hrest '"' hquote) (spells_escape true 2 0 s)
    simpa [between, Quoted.read] using hread
  | multilineLiteral =>
    have hread := multiline_of_spells hapostrophe (hrest '\'' hapostrophe)
      (spells_of_formOf_eq_multilineLiteral hform)
    simpa [between, Quoted.read] using hread

/-- A newline comes first that is not part of the string, and two apostrophes at
the end of the string stand right before the closing ones. -/
example : String.ofList (quote "\\\n''".toList) = "'''\n\\\n'''''" := by decide +kernel

end Toml

end BracketTemplate
