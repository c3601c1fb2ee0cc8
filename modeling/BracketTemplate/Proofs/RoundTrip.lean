/-
# Settings survive a write and a read

Settings are a table of three strings (`Settings.toToml`), which is written and read
in whatever way TOML is.  Of the writer it is asked that a table of strings becomes a
text that stands for it (`Format.Writes`), of the reader that a text that stands for
one is read as it (`Format.Reads`).  Then settings that are written to a file are
what is read from it, and settings that cannot be used are written all the same and
refused when they are read, for the reason that `check` gives
(`Settings.ofFile_toFile`).

| in between | what could go wrong |
| --- | --- |
| settings and their table | a default takes the place of an entry (`ofToml_toToml`) |
| the table and its text | nothing, by the two laws |
| the text and the file | nothing (`FileTree.read_of_put`) |
| the table and what is read | `check` refuses it |

`Toml.format` obeys the two laws if a text stands for what `Toml.read?` reads
(`format_writes`).  This is shown along the lines: a key without quotes
(`key_append`), a string (`value_quote`), and from these the two kinds of line that
are written (`lines_header`, `lines_assignment`).
-/

import BracketTemplate.Proofs.Quotation
import BracketTemplate.Proofs.Writing
import BracketTemplate.Settings.Files

namespace BracketTemplate

namespace Toml

open Quoted Quoting

/-! ## Keys -/

/-- A key that can be written without quotes. -/
structure IsBareKey (name : List Char) : Prop where
  ne_nil : name ≠ []
  bare : ∀ c ∈ name, isBareKeyChar c

section Keys

variable {name : List Char}

theorem ne_of_isBareKeyChar {c d : Char} (hc : isBareKeyChar c) (hd : isBareKeyChar d = false) :
    c ≠ d := by
  rintro rfl
  simp [hd] at hc

theorem not_isSpace_of_isBareKeyChar {c : Char} (h : isBareKeyChar c) : isSpace c = false := by
  have hblank : c ≠ ' ' ∧ c ≠ '\t' :=
    ⟨ne_of_isBareKeyChar h (by decide), ne_of_isBareKeyChar h (by decide)⟩
  simp [isSpace, hblank]

theorem IsBareKey.exists_cons (h : IsBareKey name) :
    ∃ c more, name = c :: more ∧ isBareKeyChar c := by
  obtain ⟨c, more, rfl⟩ := List.exists_cons_of_ne_nil h.ne_nil
  exact ⟨c, more, rfl, h.bare c List.mem_cons_self⟩

theorem skipSpace_cons {c : Char} (h : isSpace c = false) (rest : List Char) :
    skipSpace (c :: rest) = c :: rest :=
  List.dropWhile_cons_of_neg (by simp [h])

theorem skipSpace_blank {c : Char} (h : isSpace c = false) (rest : List Char) :
    skipSpace (' ' :: c :: rest) = c :: rest :=
  skipSpace_cons h rest

/-- Characters are read up to the first that is not asked for. -/
theorem takeSome_append {p : Char → Bool} (hne : name ≠ []) (hname : ∀ c ∈ name, p c) {d : Char}
    (hd : p d = false) (rest : List Char) :
    Reader.takeSome p (name ++ d :: rest) = some (name, d :: rest) := by
  have hspan : (name ++ d :: rest).span p = (name, d :: rest) := by
    simp [List.span_eq_takeWhile_dropWhile, List.takeWhile_append_of_pos hname,
      List.dropWhile_append_of_pos hname, hd]
  rw [Reader.takeSome, hspan]
  cases name with
  | nil => exact absurd rfl hne
  | cons c name => rfl

/-- A key without quotes is read as one segment. -/
theorem segment_append (h : IsBareKey name) {d : Char} (hd : isBareKeyChar d = false)
    (rest : List Char) : segment (name ++ d :: rest) = some (String.ofList name, d :: rest) := by
  have htake := takeSome_append h.ne_nil h.bare hd rest
  obtain ⟨c, more, rfl, hc⟩ := h.exists_cons
  have hquote : c ≠ '"' := ne_of_isBareKeyChar hc (by decide)
  have hapostrophe : c ≠ '\'' := ne_of_isBareKeyChar hc (by decide)
  rw [List.cons_append] at htake ⊢
  simp only [segment]
  split
  · simp_all
  · simp_all
  · rw [htake]
    rfl

/-- A key of one segment is read together with the blanks after it. -/
theorem segments_append (h : IsBareKey name) {d e : Char} {rest more : List Char}
    (hd : isBareKeyChar d = false) (hskip : skipSpace (d :: rest) = e :: more) (he : e ≠ '.')
    (fuel : Nat) : segments (fuel + 1) (name ++ d :: rest) =
      some ([String.ofList name], e :: more) := by
  have hstart : skipSpace (name ++ d :: rest) = name ++ d :: rest := by
    obtain ⟨c, more, rfl, hc⟩ := h.exists_cons
    exact skipSpace_cons (not_isSpace_of_isBareKeyChar hc) _
  simp [segments, hstart, segment_append h hd, hskip, he]

theorem key_append (h : IsBareKey name) {d e : Char} {rest more : List Char}
    (hd : isBareKeyChar d = false) (hskip : skipSpace (d :: rest) = e :: more) (he : e ≠ '.') :
    key (name ++ d :: rest) = some (([], String.ofList name), e :: more) := by
  have hsegments : segments maxDepth (name ++ d :: rest) = _ := segments_append h hd hskip he _
  simp [key, hsegments]

end Keys

/-! ## Values -/

theorem exists_cons_quote (s : List Char) : ∃ mark more, IsMark mark ∧ quote s = mark :: more := by
  unfold quote
  cases formOf s with
  | basic => exact ⟨'"', _, .inl rfl, rfl⟩
  | literal => exact ⟨'\'', _, .inr rfl, rfl⟩
  | multilineBasic => exact ⟨'"', _, .inl rfl, rfl⟩
  | multilineLiteral => exact ⟨'\'', _, .inr rfl, rfl⟩

/-- A string that has been written is read as a value, at any depth. -/
theorem value_quote (s : List Char) {rest : List Char} (hrest : EndsMarks rest) (depth : Nat) :
    value depth (quote s ++ rest) = some (.string (String.ofList s), rest) := by
  have hread := read_quote s hrest
  obtain ⟨mark, more, hmark, hquote⟩ := exists_cons_quote s
  rw [hquote, List.cons_append] at hread ⊢
  have hscalar : scalar (mark :: (more ++ rest)) = some (.string (String.ofList s), rest) := by
    rcases hmark with rfl | rfl <;> simp [scalar, hread]
  cases depth with
  | zero => exact hscalar
  | succ depth => rcases hmark with rfl | rfl <;> exact hscalar

/-! ## Lines -/

section Lines

variable {name : List Char}

/-- What can begin a key is not passed over between two lines. -/
theorem skipGap_cons {c : Char} (hspace : isSpace c = false)
    (hcomment : c ≠ '#') (hnewline : c ≠ '\n' ∧ c ≠ '\r') (rest : List Char) :
    skipGap (c :: rest) = some (c :: rest) := by
  rw [skipGap, skipLines, skipSpace_cons hspace]
  simp [newline?_eq_none hnewline]

theorem lineEnd?_newline (rest : List Char) : lineEnd? ('\n' :: rest) = some rest := rfl

theorem endsMarks_newline (rest : List Char) : EndsMarks ('\n' :: rest) := by
  rintro mark (rfl | rfl) <;> simp

theorem lines_nil (fuel : Nat) : lines (fuel + 1) [] = some ([], []) := rfl

/-- The line of a header begins a section with the assignments after it. -/
theorem lines_header (h : IsBareKey name) (fuel : Nat) (rest : List Char) :
    lines (fuel + 1) ('[' :: (name ++ ']' :: '\n' :: rest)) =
      (lines fuel rest).map fun (assignments, sections) =>
        ([], ⟨false, [], String.ofList name, assignments⟩ :: sections) := by
  have hheader : header ('[' :: (name ++ ']' :: '\n' :: rest)) =
      some (⟨false, [], String.ofList name, []⟩, '\n' :: rest) := by
    have hkey := key_append h (by decide) (skipSpace_cons (by decide) ('\n' :: rest))
      (show ']' ≠ '.' by decide)
    obtain ⟨c, more, rfl, hc⟩ := h.exists_cons
    have hbracket : c ≠ '[' := ne_of_isBareKeyChar hc (by decide)
    rw [List.cons_append] at hkey ⊢
    simp [header, hbracket, hkey, Reader.word]
  rw [lines, skipGap_cons (by decide) (by decide) (by decide)]
  simp [hheader, lineEnd?_newline, Option.map_eq_bind]

/-- The line of an assignment adds it to those after it. -/
theorem lines_assignment (h : IsBareKey name) (s : List Char) (fuel : Nat) (rest : List Char) :
    lines (fuel + 1) (name ++ ' ' :: '=' :: ' ' :: (quote s ++ '\n' :: rest)) =
      (lines fuel rest).map fun (assignments, sections) =>
        (⟨[], String.ofList name, .string (String.ofList s)⟩ :: assignments, sections) := by
  have hassignment : assignment (value maxDepth)
      (name ++ ' ' :: '=' :: ' ' :: (quote s ++ '\n' :: rest)) =
        some (⟨[], String.ofList name, .string (String.ofList s)⟩, '\n' :: rest) := by
    have hkey := key_append h (show isBareKeyChar ' ' = false by decide)
      (skipSpace_blank (c := '=') (by decide) (' ' :: (quote s ++ '\n' :: rest))) (by decide)
    have hvalue := value_quote s (endsMarks_newline rest) maxDepth
    obtain ⟨mark, more, hmark, hquote⟩ := exists_cons_quote s
    have hspace : isSpace mark = false := by rcases hmark with rfl | rfl <;> decide
    rw [hquote, List.cons_append] at hkey hvalue ⊢
    simp [assignment, hkey, skipSpace_blank hspace, hvalue]
  obtain ⟨c, more, rfl, hc⟩ := h.exists_cons
  have hgap : skipGap (c :: (more ++ ' ' :: '=' :: ' ' :: (quote s ++ '\n' :: rest))) =
      some (c :: (more ++ ' ' :: '=' :: ' ' :: (quote s ++ '\n' :: rest))) := by
    have hne {d : Char} (hd : isBareKeyChar d = false) : c ≠ d := ne_of_isBareKeyChar hc hd
    exact skipGap_cons (not_isSpace_of_isBareKeyChar hc) (hne (by decide))
      ⟨hne (by decide), hne (by decide)⟩ _
  have hbracket : c ≠ '[' := ne_of_isBareKeyChar hc (by decide)
  rw [List.cons_append] at hassignment ⊢
  rw [lines, hgap]
  simp [hbracket, hassignment, lineEnd?_newline, Option.map_eq_bind]

/-- A text without a mark of the order of bytes is read from its first line on. -/
theorem read?_eq_lines {text : String} (h : text.toList.head? ≠ some byteOrderMark) :
    Toml.read? text = (lines (text.toList.length + 1) text.toList).bind
      fun (assignments, sections) => ofSections? assignments sections := by
  unfold Toml.read?
  cases htext : text.toList with
  | nil => rfl
  | cons c rest =>
    have hc : c ≠ byteOrderMark := by simpa [htext] using h
    simp [hc, Option.bind_eq_bind]

/-- The line of a string under its key adds its assignment to those after it. -/
theorem lines_line {key : String} (h : IsBareKey key.toList) (value : String) (fuel : Nat)
    (rest : List Char) : lines (fuel + 1) ((line key value).toList ++ rest) =
      (lines fuel rest).map fun (assignments, sections) =>
        (⟨[], key, .string value⟩ :: assignments, sections) := by
  simpa [line] using lines_assignment h value.toList fuel rest

end Lines

/-! ## Tables of strings -/

/-- The document that is one table of strings. -/
def ofStrings (name : String) (entries : List (String × String)) : List (String × Toml) :=
  [(name, .table (entries.map fun e => (e.1, .string e.2)))]

/-- Whether the table and its entries have names that need no quotes, the entries
different ones. -/
structure AreNames (name : String) (entries : List (String × String)) : Prop where
  table : IsBareKey name.toList
  bare : ∀ e ∈ entries, IsBareKey e.1.toList
  distinct : (entries.map Prod.fst).Nodup

/-- Whether tables of strings are written, as texts that stand for them. -/
def Format.Writes (format : Format) (Denotes : String → List (String × Toml) → Prop) : Prop :=
  ∀ name entries, AreNames name entries →
    ∃ text, format.write (ofStrings name entries) = .ok text ∧ Denotes text (ofStrings name entries)

/-- Whether texts that stand for tables of strings are read as them. -/
def Format.Reads (format : Format) (Denotes : String → List (String × Toml) → Prop) : Prop :=
  ∀ name entries text, AreNames name entries → Denotes text (ofStrings name entries) →
    format.read text = .ok (ofStrings name entries)

section Strings

variable {name : String} {entries : List (String × String)}

theorem writeEntries_strings (entries : List (String × String)) :
    writeEntries (entries.map fun e => (e.1, .string e.2)) =
      .ok (String.join (entries.map fun e => line e.1 e.2)) := by
  induction entries with
  | nil => rfl
  | cons e rest ih =>
    rw [List.map_cons, writeEntries, ih, List.map_cons, String.join_cons]
    rfl

/-- The lines of some strings are read as their assignments. -/
theorem lines_strings (h : ∀ e ∈ entries, IsBareKey e.1.toList) {fuel : Nat}
    (hfuel : entries.length < fuel) :
    lines fuel (String.join (entries.map fun e => line e.1 e.2)).toList =
      some (entries.map fun e => ⟨[], e.1, .string e.2⟩, []) := by
  induction entries generalizing fuel with
  | nil =>
    obtain ⟨fuel, rfl⟩ : ∃ n, fuel = n + 1 := Nat.exists_eq_add_one.2 hfuel
    exact lines_nil fuel
  | cons e rest ih =>
    obtain ⟨he, hrest⟩ := List.forall_mem_cons.1 h
    obtain ⟨fuel, rfl⟩ : ∃ n, fuel = n + 1 := Nat.exists_eq_add_one.2 (Nat.zero_lt_of_lt hfuel)
    have hlength : rest.length < fuel := Nat.lt_of_succ_lt_succ hfuel
    rw [List.map_cons, String.join_cons, String.toList_append, lines_line he, ih hrest hlength]
    rfl

/-- There are no more strings than characters. -/
theorem length_le_join (entries : List (String × String)) :
    entries.length ≤ (String.join (entries.map fun e => line e.1 e.2)).toList.length := by
  induction entries with
  | nil => exact Nat.zero_le _
  | cons e rest ih =>
    have hline : 0 < (line e.1 e.2).toList.length := by simp [line]
    rw [List.map_cons, String.join_cons, String.toList_append, List.length_append,
      List.length_cons]
    omega

theorem find?_eq_none {α : Type} {key : String} {before : Entries α}
    (h : key ∉ before.map Prod.fst) : Entries.find? key before = none := by
  induction before with
  | nil => rfl
  | cons e rest ih =>
    rw [List.map_cons, List.mem_cons, not_or] at h
    rw [Entries.find?, if_neg (Ne.symm h.1), ih h.2]

theorem store_of_not_mem {key : String} {n : Node} {before : Entries Node}
    (h : key ∉ before.map Prod.fst) : Node.store key n before = before ++ [(key, n)] := by
  induction before with
  | nil => rfl
  | cons e rest ih =>
    rw [List.map_cons, List.mem_cons, not_or] at h
    rw [Node.store, if_neg (Ne.symm h.1), ih h.2]
    rfl

/-- Assignments to different keys are added in their order. -/
theorem assignAll_strings {before : Entries Node}
    (h : (before.map Prod.fst ++ entries.map Prod.fst).Nodup) :
    Node.assignAll (entries.map fun e => ⟨[], e.1, .string e.2⟩) before =
      some (before ++ entries.map fun e => (e.1, .value (.string e.2))) := by
  induction entries generalizing before with
  | nil =>
    rw [List.map_nil, List.map_nil, List.append_nil]
    rfl
  | cons e rest ih =>
    have hnot : e.1 ∉ before.map Prod.fst := fun hmem =>
      (List.nodup_append.1 h).2.2 _ hmem _ List.mem_cons_self rfl
    have hassign : Node.assign before ⟨[], e.1, .string e.2⟩ =
        some (before ++ [(e.1, .value (.string e.2))]) := by
      simp [Node.assign, Node.modify, find?_eq_none hnot, store_of_not_mem hnot]
    have hnext : ((before ++ [(e.1, Node.value (.string e.2))]).map Prod.fst ++
        rest.map Prod.fst).Nodup := by simpa using h
    have hrest := ih hnext
    rw [List.append_assoc] at hrest
    rw [List.map_cons, Node.assignAll, List.foldlM_cons, hassign]
    exact hrest

theorem entriesToToml_strings (entries : List (String × String)) :
    Node.entriesToToml (entries.map fun e => (e.1, .value (.string e.2))) =
      entries.map fun e => (e.1, .string e.2) := by
  induction entries with
  | nil => rfl
  | cons e rest ih =>
    rw [List.map_cons, Node.entriesToToml, ih]
    rfl

/-- The assignments under one header make up one table. -/
theorem ofSections?_strings (h : (entries.map Prod.fst).Nodup) :
    ofSections? [] [⟨false, [], name, entries.map fun e => ⟨[], e.1, .string e.2⟩⟩] =
      some (ofStrings name entries) := by
  have hnodup : (([] : Entries Node).map Prod.fst ++ entries.map Prod.fst).Nodup := h
  have hassign := assignAll_strings hnodup
  have hplace : Node.place []
      ⟨false, [], name, entries.map fun e => ⟨[], e.1, .string e.2⟩⟩ =
        some [(name, .table .stated (entries.map fun e => (e.1, .value (.string e.2))))] := by
    simp [Node.place, Node.modify, hassign, Node.store]
  have hroot : Node.assignAll [] [] = some [] := rfl
  simp [ofSections?, hroot, hplace, ofStrings, Node.entriesToToml, Node.toToml,
    entriesToToml_strings]

/-- **A table of strings is read back as it was written.** -/
theorem read?_of_write (h : AreNames name entries) :
    ∃ text, write (ofStrings name entries) = .ok text ∧
      read? text = some (ofStrings name entries) := by
  let body := String.join (entries.map fun e => line e.1 e.2)
  have hwrite : write (ofStrings name entries) = .ok ("[" ++ name ++ "]\n" ++ body) := by
    rw [ofStrings, write, writeEntries_strings]
    rfl
  have htext : ("[" ++ name ++ "]\n" ++ body).toList =
      '[' :: (name.toList ++ ']' :: '\n' :: body.toList) := by simp
  have hmark : ("[" ++ name ++ "]\n" ++ body).toList.head? ≠ some byteOrderMark := by
    simp [htext, byteOrderMark]
  have hlength : entries.length < ('[' :: (name.toList ++ ']' :: '\n' :: body.toList)).length := by
    have := length_le_join entries
    simp only [body, List.length_cons, List.length_append]
    omega
  refine ⟨_, hwrite, ?_⟩
  rw [read?_eq_lines hmark, htext, lines_header h.table, lines_strings h.bare hlength,
    String.ofList_toList]
  exact ofSections?_strings h.distinct

/-- **Documents are read as they are written**, for what `read?` reads. -/
theorem format_writes : format.Writes fun text doc => read? text = some doc :=
  fun _ _ h => read?_of_write h

theorem format_reads : format.Reads fun text doc => read? text = some doc := by
  intro name entries text _ hread
  simp only [format, hread]

end Strings

end Toml

namespace Settings

open Toml

/-- No default takes the place of an entry that is there. -/
theorem ofToml_toToml (settings : Settings) : ofToml settings.toToml = .ok settings := rfl

/-- Settings are a table of strings. -/
theorem exists_toToml (settings : Settings) :
    ∃ name entries, AreNames name entries ∧ settings.toToml = ofStrings name entries := by
  have hbare {name : String}
      (h : name ∈ ["paths", "templates_root", "components_root", "file_extension"]) :
      IsBareKey name.toList := by
    simp only [List.mem_cons, List.not_mem_nil, or_false] at h
    rcases h with rfl | rfl | rfl | rfl <;> exact ⟨by simp, by simp [isBareKeyChar]⟩
  refine ⟨"paths", [("templates_root", settings.templatesRoot),
    ("components_root", settings.componentsRoot), ("file_extension", settings.extension)],
    ⟨hbare (by simp), ?_, by simp⟩, rfl⟩
  intro e he
  simp only [List.mem_cons, List.not_mem_nil, or_false] at he
  rcases he with rfl | rfl | rfl <;> exact hbare (by simp)

/-- Settings that are written as text are read back, if they can be used, and
otherwise refused as `check` refuses them. -/
theorem ofText_toText {format : Format} {Denotes : String → List (String × Toml) → Prop}
    (hwrites : format.Writes Denotes) (hreads : format.Reads Denotes) (settings : Settings) :
    ∃ text, settings.toText format = .ok text ∧
      ofText format text = settings.check.map fun _ => settings := by
  obtain ⟨name, entries, hnames, hdoc⟩ := settings.exists_toToml
  obtain ⟨text, hwrite, hdenotes⟩ := hwrites name entries hnames
  have hread := hreads name entries text hnames hdenotes
  refine ⟨text, by rw [toText, hdoc, hwrite]; rfl, ?_⟩
  rw [ofText, hread, ← hdoc]
  simp only [Except.mapError, ofToml_toToml, bind, Except.bind]
  cases settings.check <;> rfl

/-- Only an extension is refused. -/
theorem check_eq_error {settings : Settings} {e : SettingsError} (h : settings.check = .error e) :
    ∃ reason, e = .invalid "paths.file_extension" reason := by
  unfold check at h
  split at h
  · exact ⟨_, (Except.error.inj h).symm⟩
  · cases h

/-- **Settings survive a write and a read**, whatever their texts hold, if tables of
strings are written as texts that stand for them and such texts are read as what they
stand for.

The text that is written is read as the settings, if they can be used, and refused
with the error of `check` if not.  To whichever file settings are written, if there can
be one, the write succeeds, and the file then holds this text; so settings that can be
used are what is read from it, and of others the read fails with that error. -/
theorem ofFile_toFile {format : Format} {Denotes : String → List (String × Toml) → Prop}
    (hwrites : format.Writes Denotes) (hreads : format.Reads Denotes) (settings : Settings)
    {tree : FileTree} {path : String} {names : List String}
    (h : tree.target path = .ok (.file names)) :
    ∃ text written, settings.toText format = .ok text ∧
      ofText format text = settings.check.map (fun _ => settings) ∧
      settings.toFile format tree path = .ok written ∧
      written.read path = .ok text ∧
      (settings.check = .ok () → ofFile format written path = .ok settings) ∧
      ∀ e, settings.check = .error e → ofFile format written path = .error e ∧
        ∃ reason, e = .invalid "paths.file_extension" reason := by
  obtain ⟨text, htext, hof⟩ := ofText_toText hwrites hreads settings
  obtain ⟨written, hwrite, hread, -⟩ := FileTree.write_changes_one_file text h
  have hfile : ofFile format written path = settings.check.map fun _ => settings := by
    rw [ofFile, hread]
    exact hof
  refine ⟨text, written, htext, hof, ?_, hread, fun hcheck => ?_,
    fun e hcheck => ⟨?_, check_eq_error hcheck⟩⟩
  · rw [toFile, htext]
    change (tree.write path text).mapError _ = _
    rw [hwrite]
    rfl
  · rw [hfile, hcheck]
    rfl
  · rw [hfile, hcheck]
    rfl

/-- Both marks three times in a row, a backslash, newlines and a control character
survive, and an extension without a dot is written and then refused. -/
theorem ofFile_toFile_marks :
    let tree : FileTree := ⟨[("site", .folder [])], []⟩
    let settings : Settings := ⟨"\"\"\"'''\\", "", ".\n\r\x01\""⟩
    let refused : Settings := ⟨"a'b", "\"", "html"⟩
    Toml.format.Writes (fun text doc => read? text = some doc) ∧
      Toml.format.Reads (fun text doc => read? text = some doc) ∧
      tree.target "site/settings" = .ok (.file ["site", "settings"]) ∧
      (∃ written, settings.toFile Toml.format tree "site/settings" = .ok written ∧
        ofFile Toml.format written "site/settings" = .ok settings) ∧
      ∃ written, refused.toFile Toml.format tree "site/settings" = .ok written ∧
        ofFile Toml.format written "site/settings" = .error
          (.invalid "paths.file_extension" "'html' must start with '.' followed by a name") := by
  intro tree settings refused
  have htarget : tree.target "site/settings" = .ok (.file ["site", "settings"]) := by decide +kernel
  obtain ⟨-, written, -, -, hwritten, -, hread, -⟩ :=
    ofFile_toFile format_writes format_reads settings htarget
  obtain ⟨-, others, -, -, hothers, -, -, herror⟩ :=
    ofFile_toFile format_writes format_reads refused htarget
  exact ⟨format_writes, format_reads, htarget, ⟨written, hwritten, hread (by decide +kernel)⟩,
    others, hothers, (herror _ (by decide +kernel)).1⟩

end Settings

end BracketTemplate
