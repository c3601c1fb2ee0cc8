/-
# Looking things up with a check

A text in UTF-8 is cut at byte offsets and a list is looked into at an index, and
both go wrong if there is nothing there: a cut may be behind the end or inside a
character, an index too large, a counter may fall below zero or pass the largest
number.  A program that checks each of these and stops with a `Trap` where a check
fails is `Guarded`.

| looked up | there if |
| --- | --- |
| `slice text start stop` | `start ≤ stop`, and there are characters of as many bytes in front of each (`slice_eq_ok_iff`) |
| `byteSlice bytes start stop` | `start ≤ stop` and `stop` is no more than there are |
| `index xs i` | there is an `i`-th |
| `sub n m` | `m ≤ n` |
| `succ max n` | `n < max` |

Bytes and characters go together (`bytesOf`): a character below 128 is one byte,
which begins no other character, so what a scan of the bytes finds of such
characters a scan of the characters finds as well (`takeWhile_bytesOf`,
`isPrefixOf_bytesOf`).

Offsets, lines and numbers of items count what is held in memory, in numbers that
are large enough for it, and no largest number is set for them.  A layer is only a
number, and the counter of blocks is a smaller one; each has its largest
(`maxWord`, `maxCount`).
-/

import BracketTemplate.Proofs.Scanning
import BracketTemplate.Proofs.Turns

namespace BracketTemplate

/-! ## The bytes of a text -/

/-- The bytes of a text. -/
def bytesOf (text : List Char) : List UInt8 := text.flatMap String.utf8EncodeChar

@[simp] theorem bytesOf_nil : bytesOf [] = [] := rfl

@[simp] theorem bytesOf_cons (c : Char) (text : List Char) :
    bytesOf (c :: text) = String.utf8EncodeChar c ++ bytesOf text := List.flatMap_cons

@[simp] theorem bytesOf_append (front back : List Char) :
    bytesOf (front ++ back) = bytesOf front ++ bytesOf back := List.flatMap_append

@[simp] theorem length_bytesOf (text : List Char) : (bytesOf text).length = byteLength text := by
  simp [bytesOf, byteLength, List.length_flatMap]

theorem count_newline_bytesOf (text : List Char) : (bytesOf text).count 10 = text.count '\n' := by
  rw [← count_newline_utf8Encode, List.utf8Encode, List.data_toByteArray, List.count_toArray]
  rfl

/-- A character of one byte is that byte, and the others begin with a byte that no
such character has. -/
theorem exists_head_utf8EncodeChar (c : Char) :
    ∃ b rest, String.utf8EncodeChar c = b :: rest ∧
      ((c.utf8Size = 1 ∧ c.toNat < 128 ∧ b.toNat = c.toNat ∧ rest = []) ∨
        (c.utf8Size ≠ 1 ∧ 128 ≤ b.toNat)) := by
  have hsize : c.utf8Size = 1 ↔ c.val.toNat ≤ 127 := by
    rw [Char.utf8Size_eq_one_iff, UInt32.le_iff_toNat_le]
    rfl
  have hbyte (n : Nat) : (UInt8.ofNat n).toNat = n % 256 := UInt8.toNat_ofNat'
  rw [Ne, hsize, Char.toNat]
  unfold String.utf8EncodeChar
  dsimp only
  generalize c.val.toNat = v
  split
  · exact ⟨_, _, rfl, .inl ⟨by omega, by omega, by rw [hbyte]; omega, rfl⟩⟩
  · split
    · exact ⟨_, _, rfl, .inr ⟨by omega, by rw [hbyte]; omega⟩⟩
    · split
      · exact ⟨_, _, rfl, .inr ⟨by omega, by rw [hbyte]; omega⟩⟩
      · exact ⟨_, _, rfl, .inr ⟨by omega, by rw [hbyte]; omega⟩⟩

/-- **Characters of one byte are found among the bytes where they are in the text.** -/
theorem isPrefixOf_bytesOf {front : List Char} (hfront : ∀ c ∈ front, c.utf8Size = 1)
    (text : List Char) : (bytesOf front).isPrefixOf (bytesOf text) = front.isPrefixOf text := by
  induction front generalizing text with
  | nil => simp
  | cons c front ih =>
    obtain ⟨hc, hfront⟩ := List.forall_mem_cons.1 hfront
    obtain ⟨b, rest, hb, ⟨-, hlt, hbc, rfl⟩ | ⟨hmore, -⟩⟩ := exists_head_utf8EncodeChar c
    swap
    · exact absurd hc hmore
    cases text with
    | nil => simp [hb]
    | cons d text =>
      obtain ⟨b', rest', hb', hd⟩ := exists_head_utf8EncodeChar d
      by_cases hcd : c = d
      · subst hcd
        rw [hb] at hb'
        obtain ⟨rfl, rfl⟩ := List.cons.inj hb'
        simp [List.isPrefixOf, hb, ih hfront]
      · have hne : b ≠ b' := by
          rintro rfl
          rcases hd with ⟨-, -, hbd, -⟩ | ⟨-, hge⟩
          · exact hcd (Char.toNat_inj.1 (hbc.symm.trans hbd))
          · omega
        simp [List.isPrefixOf, hb, hb', beq_false_of_ne hcd, beq_false_of_ne hne]

namespace Directive

/-- Whether a byte is that of a body character. -/
def isBodyByte (b : UInt8) : Bool :=
  (0x30 ≤ b && b ≤ 0x39) || (0x41 ≤ b && b ≤ 0x5A) || (0x61 ≤ b && b ≤ 0x7A) ||
    b == 0x2E || b == 0x3A || b == 0x5F || b == 0x2D

theorem isBodyByte_of_le {b : UInt8} (h : 128 ≤ b.toNat) : isBodyByte b = false := by
  have hall : ∀ n < 256, 128 ≤ n → isBodyByte (UInt8.ofNat n) = false := by decide +kernel
  have := hall b.toNat b.toNat_lt h
  rwa [UInt8.ofNat_toNat] at this

theorem isBodyByte_of_lt {b : UInt8} {c : Char} (hlt : c.toNat < 128) (h : b.toNat = c.toNat) :
    isBodyByte b = isBodyChar c := by
  have hall : ∀ n < 128, isBodyByte (UInt8.ofNat n) = isBodyChar (Char.ofNat n) := by
    decide +kernel
  have := hall c.toNat hlt
  rwa [Char.ofNat_toNat, ← h, UInt8.ofNat_toNat] at this

/-- **A run of body bytes is that of the body characters.** -/
theorem takeWhile_bytesOf (text : List Char) :
    (bytesOf text).takeWhile isBodyByte = bytesOf (text.takeWhile isBodyChar) := by
  induction text with
  | nil => rfl
  | cons c text ih =>
    obtain ⟨b, rest, hb, ⟨-, hlt, hbc, rfl⟩ | ⟨hmore, hge⟩⟩ := exists_head_utf8EncodeChar c
    · have hbody := isBodyByte_of_lt hlt hbc
      by_cases hc : isBodyChar c = true
      · simp [hb, hbody, hc, ih]
      · simp [hb, hbody, hc]
    · have hc : ¬ isBodyChar c = true := fun hc => hmore (utf8Size_of_isBodyChar hc).1
      simp [hb, isBodyByte_of_le hge, hc]

end Directive

/-! ## Programs that may stop -/

namespace Guarded

/-- Why a program cannot go on. -/
inductive Trap where
  /-- A slice that ends before it starts. -/
  | reversed
  /-- A cut behind the end of a text or a list. -/
  | behindEnd
  /-- A cut inside a character. -/
  | insideCharacter
  | noSuchIndex
  | belowZero
  | aboveMax
  /-- A loop is opened over no items. -/
  | noItems
  /-- More rounds are taken than there are allowed for. -/
  | outOfRounds
  deriving DecidableEq, Repr

end Guarded

/-- A result, unless the program cannot go on. -/
abbrev Guarded (α : Type) : Type := Except Guarded.Trap α

namespace Guarded

/-! ## Texts cut at bytes -/

/-- Cuts a text behind a number of bytes. -/
def splitAtByte : Nat → List Char → Guarded (List Char × List Char)
  | 0, text => .ok ([], text)
  | _ + 1, [] => .error .behindEnd
  | n + 1, c :: text =>
    if c.utf8Size ≤ n + 1 then do
      let (front, back) ← splitAtByte (n + 1 - c.utf8Size) text
      return (c :: front, back)
    else .error .insideCharacter

/-- The part of a text between two byte offsets. -/
def slice (text : List Char) (start stop : Nat) : Guarded (List Char) :=
  if stop < start then .error .reversed
  else do
    let (front, _) ← splitAtByte stop text
    let (_, part) ← splitAtByte start front
    return part

/-- A text is cut between characters. -/
theorem splitAtByte_byteLength (front back : List Char) :
    splitAtByte (byteLength front) (front ++ back) = .ok (front, back) := by
  induction front with
  | nil => simp [splitAtByte]
  | cons c front ih =>
    obtain ⟨n, hn⟩ : ∃ n, byteLength (c :: front) = n + 1 :=
      Nat.exists_eq_add_one.2 (by rw [byteLength_cons]; have := c.utf8Size_pos; omega)
    have hrest : n + 1 - c.utf8Size = byteLength front := by
      rw [← hn, byteLength_cons, Nat.add_sub_cancel_left]
    have hle : c.utf8Size ≤ n + 1 := by
      rw [← hn, byteLength_cons]
      exact Nat.le_add_right _ _
    rw [hn, List.cons_append, splitAtByte, if_pos hle, hrest, ih]
    rfl

theorem splitAtByte_eq_ok_iff {n : Nat} {text front back : List Char} :
    splitAtByte n text = .ok (front, back) ↔ text = front ++ back ∧ byteLength front = n := by
  constructor
  · intro h
    fun_induction splitAtByte n text generalizing front with
    | case1 text =>
      cases h
      exact ⟨rfl, rfl⟩
    | case2 => cases h
    | case3 n c text hle ih =>
      obtain ⟨⟨front', back'⟩, hcut, hpure⟩ := bind_eq_ok.1 h
      cases hpure
      obtain ⟨rfl, hlen⟩ := ih hcut
      exact ⟨rfl, by rw [byteLength_cons, hlen]; omega⟩
    | case4 => cases h
  · rintro ⟨rfl, rfl⟩
    exact splitAtByte_byteLength front back

/-- **A slice is there if its ends are between characters, in order.** -/
theorem slice_eq_ok_iff {text part : List Char} {start stop : Nat} :
    slice text start stop = .ok part ↔
      ∃ pre post, text = pre ++ (part ++ post) ∧ byteLength pre = start ∧
        start + byteLength part = stop := by
  unfold slice
  constructor
  · intro h
    split at h
    · cases h
    obtain ⟨⟨front, post⟩, hstop, h⟩ := bind_eq_ok.1 h
    obtain ⟨⟨pre, part'⟩, hstart, h⟩ := bind_eq_ok.1 h
    cases h
    obtain ⟨rfl, rfl⟩ := splitAtByte_eq_ok_iff.1 hstop
    obtain ⟨rfl, rfl⟩ := splitAtByte_eq_ok_iff.1 hstart
    exact ⟨pre, post, List.append_assoc .., rfl, (byteLength_append ..).symm⟩
  · rintro ⟨pre, post, rfl, rfl, rfl⟩
    have hcut : splitAtByte (byteLength pre + byteLength part) (pre ++ (part ++ post)) =
        .ok (pre ++ part, post) :=
      splitAtByte_eq_ok_iff.2 ⟨(List.append_assoc ..).symm, byteLength_append ..⟩
    rw [if_neg (by omega), hcut]
    change (do let (_, part) ← splitAtByte (byteLength pre) (pre ++ part); return part) = _
    rw [splitAtByte_byteLength]
    rfl

/-- There is no cut between the two bytes of `é`. -/
example : slice ['a', 'é'] 1 3 = .ok ['é'] ∧ slice ['a', 'é'] 1 2 = .error .insideCharacter := by
  decide

theorem slice_to_end (pre rest : List Char) :
    slice (pre ++ rest) (byteLength pre) (byteLength (pre ++ rest)) = .ok rest :=
  slice_eq_ok_iff.2 ⟨pre, [], by rw [List.append_nil], rfl, (byteLength_append ..).symm⟩

/-! ## Bytes cut at offsets -/

/-- The bytes between two offsets. -/
def byteSlice (bytes : List UInt8) (start stop : Nat) : Guarded (List UInt8) :=
  if stop < start then .error .reversed
  else if bytes.length < stop then .error .behindEnd
  else .ok ((bytes.take stop).drop start)

theorem byteSlice_bytesOf (pre part post : List Char) :
    byteSlice (bytesOf (pre ++ (part ++ post))) (byteLength pre)
      (byteLength pre + byteLength part) = .ok (bytesOf part) := by
  have hlength : byteLength pre + byteLength part ≤ (bytesOf (pre ++ (part ++ post))).length := by
    simp only [length_bytesOf, byteLength_append]
    omega
  rw [byteSlice, if_neg (by omega), if_neg (by omega), ← List.append_assoc, bytesOf_append,
    ← byteLength_append, ← length_bytesOf (pre ++ part), List.take_left, bytesOf_append,
    ← length_bytesOf pre, List.drop_left]

theorem byteSlice_to_end (pre rest : List Char) :
    byteSlice (bytesOf (pre ++ rest)) (byteLength pre) (bytesOf (pre ++ rest)).length =
      .ok (bytesOf rest) := by
  have h := byteSlice_bytesOf pre rest []
  rwa [List.append_nil, ← byteLength_append, ← length_bytesOf (pre ++ rest)] at h

/-! ## Lists and counters -/

/-- The largest number of 64 bits. -/
def maxWord : Nat := 2 ^ 64 - 1

/-- The largest number of 32 bits, one of which is the sign. -/
def maxCount : Nat := 2 ^ 31 - 1

/-- What a list has at an index. -/
def index {α : Type} (xs : List α) (i : Nat) : Guarded α :=
  match xs[i]? with
  | some x => .ok x
  | none => .error .noSuchIndex

/-- One number less another. -/
def sub (n m : Nat) : Guarded Nat := if n < m then .error .belowZero else .ok (n - m)

/-- One more, for a number that is at most `max`. -/
def succ (max n : Nat) : Guarded Nat := if n < max then .ok (n + 1) else .error .aboveMax

theorem sub_eq_ok {n m : Nat} (h : m ≤ n) : sub n m = .ok (n - m) := if_neg (Nat.not_lt.2 h)

theorem succ_eq_ok {max n : Nat} (h : n < max) : succ max n = .ok (n + 1) := if_pos h

theorem succ_eq_error {max n : Nat} (h : max ≤ n) : succ max n = .error .aboveMax :=
  if_neg (Nat.not_lt.2 h)

theorem index_eq_ok_iff {α : Type} {xs : List α} {i : Nat} {x : α} :
    index xs i = .ok x ↔ xs[i]? = some x := by
  unfold index
  split <;> simp_all

end Guarded

end BracketTemplate
