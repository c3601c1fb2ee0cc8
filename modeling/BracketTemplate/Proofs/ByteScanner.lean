/-
# Scanning the bytes of a text

The directives of a text can be found in its bytes, with offsets instead of the
characters that are left: the scanner goes to the next `[[ `, counts the body
bytes behind it and looks for a closing there.  If there is one it goes on behind
it, and else one byte further, since the next `[[ ` may overlap this one.  Lines
are counted in newline bytes, each once.

Every offset is used to cut the text or its bytes, so a scanner with a wrong one
would stop (`Guarded`).  None does: the offset that the scanner stands at is that of
the characters in front (`Scanner.At`), a `[` takes one byte, and what has been
matched is a whole directive.  So the scanner goes through to the end and finds what
`Directive.scan` finds (`scan_eq`).

| found at the offset | goes on at |
| --- | --- |
| no further `[[ ` | the end |
| `[[ ` that begins no directive | one byte behind |
| a directive | behind it |
-/

import BracketTemplate.Proofs.Slices

namespace BracketTemplate

/-! ## The scan by characters -/

theorem byteLength_of_forall {text : List Char} (h : ∀ c ∈ text, c.utf8Size = 1) :
    byteLength text = text.length := by
  rw [byteLength, List.map_congr_left h, List.map_const', List.sum_replicate, smul_eq_mul, mul_one]

namespace Directive

theorem byteLength_opening : byteLength opening = opening.length :=
  show byteLength opening = 3 by decide

theorem length_closing_le (body : List Char) : closing.length ≤ (spelling body).length := by
  rw [length_spelling]
  exact Nat.le_add_left_of_le (by decide)

theorem byteLength_takeWhile_isBodyChar (text : List Char) :
    byteLength (text.takeWhile isBodyChar) = (text.takeWhile isBodyChar).length :=
  byteLength_of_forall fun _ hc => (utf8Size_of_isBodyChar (List.mem_takeWhile_imp hc)).1

theorem body?_eq_none {text : List Char} (h : opening.isPrefixOf text = false) :
    body? text = none := by
  by_contra hne
  obtain ⟨body, hbody⟩ := Option.ne_none_iff_exists'.1 hne
  obtain ⟨-, post, rfl⟩ := body?_eq_some_iff.1 hbody
  have hprefix : opening <+: spelling body ++ post := by
    rw [spelling, List.append_assoc, List.append_assoc]
    exact List.prefix_append _ _
  rw [List.isPrefixOf_iff_prefix.2 hprefix] at h
  cases h

end Directive

namespace Template

/-- A character that begins no directive is literal. -/
theorem directives_scanFrom_cons {c : Char} {rest : List Char}
    (h : Directive.body? (c :: rest) = none)
    (offset line : Nat) : (scanFrom 0 offset line (c :: rest)).directives =
      (scanFrom 0 (offset + c.utf8Size) (line + [c].count '\n') rest).directives := by
  have hline : (if c = '\n' then line + 1 else line) = line + [c].count '\n' := by
    by_cases hc : c = '\n'
    · rw [if_pos hc, hc]
      rfl
    · rw [if_neg hc, List.count_cons_of_ne hc]
      rfl
  rw [scanFrom, h, hline]
  rfl

/-- Characters of a directive are passed over. -/
theorem scanFrom_pass (front post : List Char) (offset line : Nat) :
    scanFrom front.length offset line (front ++ post) =
      scanFrom 0 (offset + byteLength front) line post := by
  induction front generalizing offset with
  | nil => rfl
  | cons c front ih =>
    rw [List.length_cons, List.cons_append, scanFrom, ih, byteLength_cons, Nat.add_assoc]

end Template

namespace Guarded

open Directive

/-! ## The scan by bytes -/

/-- How far a text has been scanned: where the scan goes on, and the line at an
offset up to which newlines have been counted. -/
structure Scanner where
  pos : Nat
  line : Nat
  counted : Nat

/-- What comes of looking for the next directive once. -/
inductive Round where
  | done
  | found (d : Directive) (next : Scanner)
  | passed (next : Scanner)

/-- Where a directive that starts at an offset ends, if one does. -/
def matchAt (bytes : List UInt8) (start : Nat) : Guarded (Option Nat) := do
  let behind ← byteSlice bytes (start + opening.length) bytes.length
  let bodyLength := (behind.takeWhile isBodyByte).length
  if bodyLength = 0 then return none
  let bodyStop := start + opening.length + bodyLength
  let behind ← byteSlice bytes bodyStop bytes.length
  return if (bytesOf closing).isPrefixOf behind then some (bodyStop + closing.length) else none

/-- Counts the newlines up to an offset. -/
def Scanner.lineAt (s : Scanner) (bytes : List UInt8) (offset : Nat) : Guarded Scanner := do
  let passed ← byteSlice bytes s.counted offset
  return { s with line := s.line + passed.count 10, counted := offset }

/-- The offset of the first opening. -/
def firstOpening? : List Char → Option Nat
  | [] => none
  | c :: text =>
    if opening.isPrefixOf (c :: text) then some 0
    else (firstOpening? text).map (c.utf8Size + ·)

/-- Looks for the next directive. -/
def Scanner.round (s : Scanner) (text : List Char) : Guarded Round := do
  if s.pos < byteLength text then
    let rest ← slice text s.pos (byteLength text)
    match firstOpening? rest with
    | none => return .done
    | some offset =>
      let start := s.pos + offset
      match ← matchAt (bytesOf text) start with
      | none => return .passed { s with pos := start + 1 }
      | some stop =>
        let s ← s.lineAt (bytesOf text) start
        let body ← slice text (start + opening.length) (← sub stop closing.length)
        return .found { ofBody body start s.line with stop := stop } { s with pos := stop }
  else return .done

/-- The directives of a text from where a scanner stands. -/
def Scanner.scanFor (text : List Char) : (rounds : Nat) → Scanner → Guarded (List Directive)
  | 0, _ => .error .outOfRounds
  | rounds + 1, s => do
    match ← s.round text with
    | .done => return []
    | .found d next => return d :: (← scanFor text rounds next)
    | .passed next => scanFor text rounds next

/-- The directives of a text. -/
def scan (text : List Char) : Guarded (List Directive) :=
  Scanner.scanFor text (byteLength text + 1) ⟨0, 1, 0⟩

/-! ## The next opening -/

/-- A text without openings has no directives. -/
theorem directives_of_firstOpening?_eq_none {text : List Char} (h : firstOpening? text = none)
    (offset line : Nat) : (Template.scanFrom 0 offset line text).directives = [] := by
  induction text generalizing offset line with
  | nil => rfl
  | cons c text ih =>
    rw [firstOpening?] at h
    split at h
    · cases h
    rename_i hopening
    rw [Template.directives_scanFrom_cons (body?_eq_none (Bool.eq_false_iff.2 hopening))]
    exact ih (Option.map_eq_none_iff.1 h) ..

/-- **No directive starts in front of the first opening.** -/
theorem exists_of_firstOpening?_eq_some {text : List Char} {n : Nat}
    (h : firstOpening? text = some n) :
    ∃ gap behind, text = gap ++ (opening ++ behind) ∧ byteLength gap = n ∧
      ∀ offset line, (Template.scanFrom 0 offset line text).directives =
        (Template.scanFrom 0 (offset + n) (line + gap.count '\n')
          (opening ++ behind)).directives := by
  induction text generalizing n with
  | nil => cases h
  | cons c text ih =>
    rw [firstOpening?] at h
    split at h
    · rename_i hopening
      obtain ⟨behind, hbehind⟩ := List.isPrefixOf_iff_prefix.1 hopening
      cases h
      exact ⟨[], behind, hbehind.symm, rfl, fun offset line => by rw [hbehind]; rfl⟩
    · rename_i hopening
      obtain ⟨m, hm, rfl⟩ := Option.map_eq_some_iff.1 h
      obtain ⟨gap, behind, rfl, rfl, hscan⟩ := ih hm
      refine ⟨c :: gap, behind, rfl, byteLength_cons c gap, fun offset line => ?_⟩
      rw [Template.directives_scanFrom_cons (body?_eq_none (Bool.eq_false_iff.2 hopening)), hscan,
        Nat.add_assoc, Nat.add_assoc, ← List.count_append]
      rfl

/-! ## What stands at an opening -/

/-- **The bytes at an opening are matched if a directive starts there.** -/
theorem matchAt_eq (pre behind : List Char) :
    matchAt (bytesOf (pre ++ (opening ++ behind))) (byteLength pre) =
      .ok ((body? (opening ++ behind)).map fun body =>
        byteLength pre + (spelling body).length) := by
  have hclosing : ∀ c ∈ closing, c.utf8Size = 1 := by
    intro c hc
    simp only [closing, List.mem_cons, List.not_mem_nil, or_false, or_self] at hc
    rcases hc with rfl | rfl <;> decide
  have hbehind := byteSlice_to_end (pre ++ opening) behind
  rw [byteLength_append, byteLength_opening, List.append_assoc] at hbehind
  have hbody : body? (opening ++ behind) =
      if behind.takeWhile isBodyChar ≠ [] ∧ closing.isPrefixOf (behind.dropWhile isBodyChar) then
        some (behind.takeWhile isBodyChar) else none := rfl
  have hlength : ((bytesOf behind).takeWhile isBodyByte).length =
      (behind.takeWhile isBodyChar).length := by
    rw [takeWhile_bytesOf, length_bytesOf, byteLength_takeWhile_isBodyChar]
  have hback := byteSlice_to_end (pre ++ opening ++ behind.takeWhile isBodyChar)
    (behind.dropWhile isBodyChar)
  rw [List.append_assoc, List.takeWhile_append_dropWhile, List.append_assoc, byteLength_append,
    byteLength_append, byteLength_opening, byteLength_takeWhile_isBodyChar] at hback
  simp only [matchAt, hbehind, hlength, bind, Except.bind]
  rw [hbody]
  by_cases hnil : behind.takeWhile isBodyChar = []
  · rw [hnil]
    rfl
  · rw [if_neg (by rwa [List.length_eq_zero_iff]), hback]
    simp only [isPrefixOf_bytesOf hclosing, pure, Except.pure]
    by_cases hclose : closing.isPrefixOf (behind.dropWhile isBodyChar) = true
    · rw [if_pos hclose, if_pos ⟨hnil, hclose⟩, Option.map_some, length_spelling]
      have hlengths : opening.length = 3 ∧ closing.length = 3 := ⟨rfl, rfl⟩
      congr 2
      omega
    · rw [if_neg hclose, if_neg fun h => hclose h.2, Option.map_none]

/-! ## One round -/

/-- Whether a scanner stands behind some characters of a text, of which it has
counted the newlines of the first. -/
structure Scanner.At (s : Scanner) (pre : List Char) : Prop where
  pos : s.pos = byteLength pre
  counted : ∃ done passed, pre = done ++ passed ∧ s.counted = byteLength done ∧
    s.line = 1 + done.count '\n'

/-- The directives of a text behind some of its characters. -/
def listed (pre rest : List Char) : List Directive :=
  (Template.scanFrom 0 (byteLength pre) (1 + pre.count '\n') rest).directives

/-- What a round says of the directives that are left. -/
def Round.Tells (pre rest : List Char) : Round → Prop
  | .done => listed pre rest = []
  | .found d next => ∃ pre' rest', pre ++ rest = pre' ++ rest' ∧ next.At pre' ∧
      byteLength rest' < byteLength rest ∧ listed pre rest = d :: listed pre' rest'
  | .passed next => ∃ pre' rest', pre ++ rest = pre' ++ rest' ∧ next.At pre' ∧
      byteLength rest' < byteLength rest ∧ listed pre rest = listed pre' rest'

theorem lineAt_eq {s : Scanner} {pre : List Char} (hs : s.At pre) (gap rest : List Char) :
    s.lineAt (bytesOf (pre ++ (gap ++ rest))) (byteLength (pre ++ gap)) =
      .ok ⟨s.pos, 1 + (pre ++ gap).count '\n', byteLength (pre ++ gap)⟩ := by
  obtain ⟨-, done, passed, rfl, hcounted, hline⟩ := hs
  have hslice : byteSlice (bytesOf (done ++ passed ++ (gap ++ rest))) s.counted
      (byteLength (done ++ passed ++ gap)) = .ok (bytesOf (passed ++ gap)) := by
    have h := byteSlice_bytesOf done (passed ++ gap) rest
    simpa only [hcounted, List.append_assoc, byteLength_append] using h
  rw [Scanner.lineAt, hslice]
  simp only [bind, Except.bind, pure, Except.pure, count_newline_bytesOf, hline]
  congr 2
  simp only [List.count_append]
  omega

/-- What begins with a directive is listed with it in front. -/
theorem listed_spelling {body : List Char} (h : IsBody body) (pre post : List Char) :
    listed pre (spelling body ++ post) =
      ofBody body (byteLength pre) (1 + pre.count '\n') :: listed (pre ++ spelling body) post := by
  have hbody : body? (spelling body ++ post) = some body := body?_eq_some_iff.2 ⟨h, post, rfl⟩
  obtain ⟨rest, hrest⟩ : ∃ rest, spelling body = '[' :: rest := ⟨_, rfl⟩
  have hlength : body.length + 5 = rest.length := by
    have := length_spelling body
    rw [hrest, List.length_cons] at this
    omega
  have hsize : byteLength pre + '['.utf8Size + byteLength rest =
      byteLength (pre ++ spelling body) := by
    rw [hrest, byteLength_append, byteLength_cons, Nat.add_assoc]
  rw [hrest, List.cons_append] at hbody ⊢
  rw [listed, Template.scanFrom, hbody]
  change _ :: (Template.scanFrom _ _ _ _).directives = _
  rw [hlength, Template.scanFrom_pass, hsize, ← hrest, listed, List.count_append,
    (byteLength_spelling h).2, Nat.add_zero]

/-- What begins with a literal character is listed behind it. -/
theorem listed_cons {c : Char} {rest : List Char} (h : body? (c :: rest) = none)
    (pre : List Char) : listed pre (c :: rest) = listed (pre ++ [c]) rest := by
  rw [listed, Template.directives_scanFrom_cons h, listed, byteLength_append, List.count_append,
    Nat.add_assoc, byteLength_cons, byteLength_nil, Nat.add_zero]

/-- The body of a directive is cut out of the text by what stands around it. -/
theorem slice_body {body : List Char} (h : IsBody body) (pre post : List Char) :
    slice (pre ++ (spelling body ++ post)) (byteLength pre + opening.length)
      (byteLength pre + (spelling body).length - closing.length) = .ok body := by
  refine slice_eq_ok_iff.2 ⟨pre ++ opening, closing ++ post, ?_, ?_, ?_⟩
  · simp only [spelling, List.append_assoc]
  · rw [byteLength_append, byteLength_opening]
  · have hlengths : opening.length = 3 ∧ closing.length = 3 := ⟨rfl, rfl⟩
    have hbody : byteLength body = body.length :=
      byteLength_of_forall fun c hc => (utf8Size_of_isBodyChar (h.2 c hc)).1
    rw [hbody, length_spelling]
    omega

/-- A scanner that has gone on without counting stands behind more characters. -/
theorem Scanner.At.goOn {s : Scanner} {pre : List Char} (hs : s.At pre) (more : List Char) :
    Scanner.At ⟨byteLength (pre ++ more), s.line, s.counted⟩ (pre ++ more) := by
  obtain ⟨-, done, passed, rfl, hcounted, hline⟩ := hs
  exact ⟨rfl, done, passed ++ more, List.append_assoc .., hcounted, hline⟩

/-- **A round stops nowhere**, and goes on behind what it has found. -/
theorem exists_round {s : Scanner} {pre : List Char} (hs : s.At pre) (rest : List Char) :
    ∃ r, s.round (pre ++ rest) = .ok r ∧ r.Tells pre rest := by
  rw [Scanner.round, hs.pos]
  by_cases hend : byteLength pre < byteLength (pre ++ rest)
  swap
  · obtain rfl : [] = rest := by
      have hsame : [] ++ rest = rest ++ [] := (List.append_nil rest).symm
      refine eq_of_byteLength_eq hsame ?_
      rw [byteLength_append] at hend
      rw [byteLength_nil]
      omega
    exact ⟨.done, if_neg hend, rfl⟩
  rw [if_pos hend, slice_to_end]
  cases hopening : firstOpening? rest with
  | none =>
    refine ⟨.done, ?_, directives_of_firstOpening?_eq_none hopening ..⟩
    simp only [bind, Except.bind, hopening]
    rfl
  | some n =>
    obtain ⟨gap, behind, rfl, rfl, hscan⟩ := exists_of_firstOpening?_eq_some hopening
    have hlisted : listed pre (gap ++ (opening ++ behind)) =
        listed (pre ++ gap) (opening ++ behind) := by
      rw [listed, hscan, listed, byteLength_append, List.count_append, Nat.add_assoc]
    have hmatch := matchAt_eq (pre ++ gap) behind
    rw [List.append_assoc] at hmatch
    simp only [bind, Except.bind, hopening, ← byteLength_append, hmatch]
    cases hbody : body? (opening ++ behind) with
    | none =>
      -- The next directive may start in the opening, behind its first bracket.
      refine ⟨.passed ⟨byteLength (pre ++ gap) + 1, s.line, s.counted⟩, rfl,
        pre ++ (gap ++ ['[']), ['[', ' '] ++ behind, ?_, ?_, ?_, ?_⟩
      · simp [opening]
      · have hpos : byteLength (pre ++ gap) + 1 = byteLength (pre ++ (gap ++ ['['])) := by
          rw [← List.append_assoc, byteLength_append (pre ++ gap)]
          rfl
        rw [hpos]
        exact hs.goOn _
      · simp only [opening, byteLength_append, byteLength_cons]
        have := '['.utf8Size_pos
        omega
      · rw [hlisted, ← List.append_assoc]
        exact listed_cons hbody (pre ++ gap)
    | some body =>
      obtain ⟨hbody, post, hpost⟩ := body?_eq_some_iff.1 hbody
      have hline := lineAt_eq hs gap (opening ++ behind)
      have hslice := slice_body hbody (pre ++ gap) post
      rw [← hpost, List.append_assoc] at hslice
      have hsub : sub (byteLength (pre ++ gap) + (spelling body).length) closing.length =
          .ok (byteLength (pre ++ gap) + (spelling body).length - closing.length) :=
        sub_eq_ok (Nat.le_add_left_of_le (length_closing_le body))
      simp only [Option.map_some, hline, hsub, hslice]
      refine ⟨.found _ ⟨byteLength (pre ++ gap) + (spelling body).length,
        1 + (pre ++ gap).count '\n', byteLength (pre ++ gap)⟩, rfl,
        pre ++ gap ++ spelling body, post, ?_, ?_, ?_, ?_⟩
      · rw [hpost]
        simp only [List.append_assoc]
      · refine ⟨?_, pre ++ gap, spelling body, rfl, rfl, rfl⟩
        rw [byteLength_append (pre ++ gap), (byteLength_spelling hbody).1]
      · have := length_spelling body
        rw [hpost, byteLength_append, byteLength_append, (byteLength_spelling hbody).1]
        omega
      · rw [hlisted, hpost]
        exact listed_spelling hbody (pre ++ gap) post

/-! ## The whole scan -/

theorem scanFor_eq {rounds : Nat} {s : Scanner} {pre rest : List Char} (hs : s.At pre)
    (hrounds : byteLength rest < rounds) :
    Scanner.scanFor (pre ++ rest) rounds s = .ok (listed pre rest) := by
  induction rounds generalizing s pre rest with
  | zero => omega
  | succ rounds ih =>
    obtain ⟨r, hround, htells⟩ := exists_round hs rest
    rw [Scanner.scanFor, hround]
    cases r with
    | done =>
      rw [show listed pre rest = [] from htells]
      rfl
    | found d next =>
      obtain ⟨pre', rest', htext, hnext, hlt, hlisted⟩ := htells
      rw [htext, hlisted]
      change (do return d :: (← Scanner.scanFor _ rounds next)) = _
      rw [ih hnext (by omega)]
      rfl
    | passed next =>
      obtain ⟨pre', rest', htext, hnext, hlt, hlisted⟩ := htells
      rw [htext, hlisted]
      exact ih hnext (by omega)

/-- **A scanner that checks every offset comes to the end and finds the directives
of the text.** -/
theorem scan_eq (text : String) : scan text.toList = .ok (Directive.scan text) :=
  have hstart : Scanner.At ⟨0, 1, 0⟩ [] := ⟨rfl, [], [], rfl, rfl, rfl⟩
  scanFor_eq hstart (Nat.lt_succ_self _)

end Guarded

end BracketTemplate
