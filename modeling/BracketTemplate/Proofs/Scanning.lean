/-
# The scan of a text lists its directives

A span of a text is a directive if its bytes are those of `[[ body ]]`
(`IsSpan`).  A directive starts with a byte below 128, so in UTF-8 such a span
begins and ends between characters whatever stands around it (`isSpan_iff`), and
what was said of characters in `Template` carries over to bytes.

`scan_lists_spans` puts it together: the scan of a text has exactly the spans
that are directives, each once and in order, with the segments of the body and
the line, which is counted in newline bytes.
-/

import BracketTemplate.Proofs.Layout

namespace BracketTemplate

theorem size_utf8Encode (cs : List Char) : cs.utf8Encode.size = byteLength cs := by
  simp [List.utf8Encode, byteLength, List.length_flatMap]

/-- The only byte that a newline shares with another character is its own. -/
theorem count_newline_utf8EncodeChar (c : Char) :
    (String.utf8EncodeChar c).count 10 = if c = '\n' then 1 else 0 := by
  have hc : c = '\n' ↔ c.val.toNat = 10 := by
    rw [Char.ext_iff, ← UInt32.toNat_inj]
    rfl
  have hbyte : ∀ n : ℕ, UInt8.ofNat n = 10 ↔ n % 256 = 10 := fun n => by
    rw [← UInt8.toNat_inj, UInt8.toNat_ofNat']
    rfl
  rw [if_congr hc rfl rfl]
  unfold String.utf8EncodeChar
  dsimp only
  generalize c.val.toNat = v
  split
  · rw [List.count_singleton]
    simp only [beq_iff_eq, hbyte]
    split <;> split <;> omega
  · rw [if_neg (by omega : v ≠ 10)]
    split
    · simp only [List.count_eq_zero, List.mem_cons, List.not_mem_nil, or_false, not_or,
        @eq_comm UInt8 10, hbyte]
      omega
    · split <;>
      · simp only [List.count_eq_zero, List.mem_cons, List.not_mem_nil, or_false, not_or,
          @eq_comm UInt8 10, hbyte]
        omega

/-- Newline bytes and newlines are equally many. -/
theorem count_newline_utf8Encode (cs : List Char) :
    cs.utf8Encode.data.count 10 = cs.count '\n' := by
  rw [List.utf8Encode, List.data_toByteArray, List.count_toArray]
  induction cs with
  | nil => rfl
  | cons c rest ih =>
    rw [List.flatMap_cons, List.count_append, ih, count_newline_utf8EncodeChar, List.count_cons,
      Nat.add_comm]
    simp only [beq_iff_eq]

/-- **Bytes that spell characters begin and end between characters.** -/
theorem extract_eq_utf8Encode_iff {text : String} {mid : List Char} (hmid : mid ≠ []) {s e : ℕ} :
    e ≤ text.utf8ByteSize ∧ text.toByteArray.extract s e = mid.utf8Encode ↔
      ∃ pre post, text.toList = pre ++ (mid ++ post) ∧ s = byteLength pre ∧
        e = byteLength pre + byteLength mid := by
  have hbytes : text.toByteArray = text.toList.utf8Encode := String.utf8Encode_toList.symm
  constructor
  · rintro ⟨he, hext⟩
    have hsize : e - s = byteLength mid := by
      have := congrArg ByteArray.size hext
      rwa [ByteArray.size_extract, size_utf8Encode, String.size_toByteArray, Nat.min_eq_left he]
        at this
    have hpos : 0 < byteLength mid := by
      obtain ⟨c, cs, rfl⟩ := List.exists_cons_of_ne_nil hmid
      have := c.utf8Size_pos
      rw [byteLength_cons]
      omega
    have hvalid : String.Pos.Raw.IsValid text ⟨s⟩ := by
      have hutf : (text.toByteArray.extract s e).IsValidUTF8 := ⟨mid, hext⟩
      rcases (String.Pos.Raw.isValidUTF8_extract_iff (s := text) ⟨s⟩ ⟨e⟩
        (String.Pos.Raw.le_iff.2 (show s ≤ e by omega)) (String.Pos.Raw.le_iff.2 he)).1 hutf
        with h | h
      · have : s = e := congrArg String.Pos.Raw.byteIdx h
        omega
      · exact h.1
    obtain ⟨pre, rest, hpre, htext⟩ := hvalid.exists
    have hs : byteLength pre = s := by
      rw [← size_utf8Encode, hpre, ByteArray.size_extract, String.size_toByteArray]
      change min s text.utf8ByteSize - 0 = s
      omega
    obtain ⟨post, rfl⟩ : mid <+: rest := by
      refine List.isPrefix_of_utf8Encode_append_eq_utf8Encode
        (rest.utf8Encode.extract (byteLength mid) rest.utf8Encode.size) ?_
      have hcut : rest.utf8Encode.extract 0 (byteLength mid) = mid.utf8Encode := by
        have hsplit : text.toByteArray = pre.utf8Encode ++ rest.utf8Encode := by
          rw [← htext, String.toByteArray_ofList, List.utf8Encode_append]
        have hes : e = s + byteLength mid := by omega
        rw [← hext, hsplit, hes]
        exact (ByteArray.extract_append_size_add' (by rw [size_utf8Encode, hs])).symm
      rw [← hcut, ← ByteArray.extract_eq_extract_append_extract _ (Nat.zero_le _),
        ByteArray.extract_zero_size]
      have hsize := congrArg ByteArray.size hcut
      rw [ByteArray.size_extract, size_utf8Encode mid, Nat.sub_zero] at hsize
      exact hsize ▸ Nat.min_le_right _ _
    refine ⟨pre, post, ?_, hs.symm, by omega⟩
    rw [← htext, String.toList_ofList]
  · rintro ⟨pre, post, htext, rfl, rfl⟩
    have hsplit : text.toByteArray = pre.utf8Encode ++ (mid.utf8Encode ++ post.utf8Encode) := by
      rw [hbytes, htext, List.utf8Encode_append, List.utf8Encode_append]
    constructor
    · rw [← String.size_toByteArray, hbytes, size_utf8Encode, htext, byteLength_append,
        byteLength_append]
      omega
    · rw [hsplit]
      have h := ByteArray.extract_append_size_add' (a := pre.utf8Encode)
        (b := mid.utf8Encode ++ post.utf8Encode) (i := 0) (j := byteLength mid)
        (size_utf8Encode pre).symm
      rw [Nat.add_zero] at h
      rw [h]
      exact ByteArray.extract_append_eq_left (size_utf8Encode mid).symm

namespace Directive

/-- The bytes from `s` up to `e` of a text are a directive with a body. -/
def IsSpan (text body : String) (s e : ℕ) : Prop :=
  e ≤ text.utf8ByteSize ∧ IsBody body.toList ∧
    text.toByteArray.extract s e = ("[[ " ++ body ++ " ]]").toByteArray

/-- Such a span is a cut of the text in characters. -/
theorem isSpan_iff {text body : String} {s e : ℕ} :
    IsSpan text body s e ↔ IsBody body.toList ∧ ∃ pre post,
      text.toList = pre ++ (spelling body.toList ++ post) ∧ s = byteLength pre ∧
        e = s + (spelling body.toList).length := by
  have hspell : ("[[ " ++ body ++ " ]]").toByteArray = (spelling body.toList).utf8Encode := by
    rw [← String.utf8Encode_toList, String.toList_append, String.toList_append]
    rfl
  have hne : spelling body.toList ≠ [] := by
    rw [Ne, ← List.length_eq_zero_iff, length_spelling]
    omega
  constructor
  · rintro ⟨he, hbody, hext⟩
    rw [hspell] at hext
    obtain ⟨pre, post, htext, hs, hend⟩ := (extract_eq_utf8Encode_iff hne).1 ⟨he, hext⟩
    exact ⟨hbody, pre, post, htext, hs, by rw [hs, hend, (byteLength_spelling hbody).1]⟩
  · rintro ⟨hbody, pre, post, htext, rfl, rfl⟩
    obtain ⟨he, hext⟩ := (extract_eq_utf8Encode_iff hne).2 ⟨pre, post, htext, rfl, rfl⟩
    rw [(byteLength_spelling hbody).1] at he hext
    exact ⟨he, hbody, by rw [hext, hspell]⟩

/-- The segments of a directive, joined with colons, spell its body. -/
theorem intercalate_segments (d : Directive) :
    ":".intercalate (d.keyword :: d.args) = String.ofList d.body := by
  rw [← String.toList_inj, String.toList_intercalate]
  exact String.toList_ofList.symm

/-- **The scan of a text lists exactly its directives.**  It has a directive for
every span of the text that is one, wherever it stands, and for no other; they
are in order and disjoint; and each has the segments of its body, the kind of its
keyword, and one more than the newline bytes in front of it for a line. -/
theorem scan_lists_spans (text : String) :
    (∀ s e, (∃ d ∈ scan text, d.start = s ∧ d.stop = e) ↔ ∃ body, IsSpan text body s e) ∧
    (scan text).Pairwise (fun d d' => d.start < d'.start ∧ d.stop ≤ d'.start) ∧
    ∀ d ∈ scan text,
      IsSpan text (":".intercalate (d.keyword :: d.args)) d.start d.stop ∧
      d.kind = .ofKeyword d.keyword ∧
      d.line = 1 + (text.toByteArray.extract 0 d.start).data.count 10 := by
  have hspan : ∀ d ∈ scan text,
      IsSpan text (":".intercalate (d.keyword :: d.args)) d.start d.stop ∧
      d.line = 1 + (text.toByteArray.extract 0 d.start).data.count 10 := by
    intro d hd
    obtain ⟨p, hp, rfl⟩ := List.mem_map.1 hd
    obtain ⟨pre, post, htext, hbody, hd⟩ :=
      Template.exists_of_mem_laidFrom (Template.laid_ofText text) hp
    have hstart : p.directive.start = byteLength pre :=
      (congrArg start hd).trans (Nat.zero_add _)
    have hline : p.directive.line = 1 + pre.count '\n' := congrArg line hd
    have hstop : p.directive.stop =
        p.directive.start + (spelling p.directive.body).length := by
      rw [hstart]
      exact (congrArg stop hd).trans (by simp [ofBody])
    have htext : text.toList = pre ++ (spelling p.directive.body ++ post) := by
      rw [← Template.text_ofText]
      exact htext
    refine ⟨?_, ?_⟩
    · rw [intercalate_segments, isSpan_iff, String.toList_ofList]
      exact ⟨hbody, pre, post, htext, hstart, hstop⟩
    · have hfront : text.toByteArray.extract 0 p.directive.start = pre.utf8Encode := by
        rw [← String.utf8Encode_toList, htext, List.utf8Encode_append, hstart]
        exact ByteArray.extract_append_eq_left (size_utf8Encode pre).symm
      rw [hfront, count_newline_utf8Encode]
      exact hline
  refine ⟨fun s e => ⟨?_, ?_⟩, ?_, fun d hd => ⟨(hspan d hd).1, rfl, (hspan d hd).2⟩⟩
  · rintro ⟨d, hd, rfl, rfl⟩
    exact ⟨_, (hspan d hd).1⟩
  · rintro ⟨body, hb⟩
    obtain ⟨hbody, pre, post, htext, rfl, rfl⟩ := isSpan_iff.1 hb
    exact ⟨_, Template.mem_directives_ofText hbody htext, rfl, rfl⟩
  · exact List.pairwise_map.2 (Template.pairwise_of_laidFrom (Template.laid_ofText text)).1

end Directive

end BracketTemplate
