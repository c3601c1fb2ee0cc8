/-
# Contexts of JSON and TOML data

What is looked up in a context that was made of a JSON object or of a TOML table is
what the segments of the name lead to in that data, converted (`lookup?_of_data`).
Nothing comes in on the way and nothing gets lost: keys keep all their characters,
elements their positions, and numbers of 64 bits are kept as they are.

| data | JSON | TOML | in a context |
| --- | --- | --- | --- |
| string, boolean, float | the same | the same | the same |
| integer of 64 bits with a sign | the same | the same | the same |
| larger integer, null | a float, null | | a float, null |
| moment | | a moment | its text |
| list | an array | an array | a sequence |
| table | an object | a table | a mapping |

Data that both can express makes the same context out of either (`Json.SameAs`), since
objects and tables have their entries in name order, those that are read in particular
(`Json.inOrder_of_read?`, `Toml.inOrder_of_settleEntries?`).
-/

import BracketTemplate.Json.Reading
import BracketTemplate.Proofs.Reach
import BracketTemplate.Toml.Reading

namespace BracketTemplate

/-! ## How the two formats are made up -/

/-- What is in an object. -/
def Json.members? : Json → Option (Entries Json)
  | .object members => some members
  | _ => none

/-- What is in an array. -/
def Json.items? : Json → Option (List Json)
  | .array items => some items
  | _ => none

/-- How JSON values are made up. -/
def Json.shape : Shape Json := ⟨Json.members?, Json.items?⟩

/-- What is in a table. -/
def Toml.entries? : Toml → Option (Entries Toml)
  | .table entries => some entries
  | _ => none

/-- What is in an array. -/
def Toml.items? : Toml → Option (List Toml)
  | .array items => some items
  | _ => none

/-- How TOML values are made up. -/
def Toml.shape : Shape Toml := ⟨Toml.entries?, Toml.items?⟩

namespace Value

theorem listOfJson_eq_map (items : List Json) : listOfJson items = items.map ofJson := by
  induction items with
  | nil => simp [listOfJson]
  | cons j rest ih => simp [listOfJson, ih]

theorem entriesOfJson_eq_map (members : Entries Json) :
    entriesOfJson members = members.map fun m => (m.1, ofJson m.2) := by
  induction members with
  | nil => simp [entriesOfJson]
  | cons m rest ih => simp [entriesOfJson, ih]

theorem listOfToml_eq_map (items : List Toml) : listOfToml items = items.map ofToml := by
  induction items with
  | nil => simp [listOfToml]
  | cons t rest ih => simp [listOfToml, ih]

theorem entriesOfToml_eq_map (entries : Entries Toml) :
    entriesOfToml entries = entries.map fun e => (e.1, ofToml e.2) := by
  induction entries with
  | nil => simp [entriesOfToml]
  | cons e rest ih => simp [entriesOfToml, ih]

/-- A JSON value and the value that it stands for are made up in the same way. -/
theorem maps_ofJson : Json.shape.Maps shape ofJson where
  entries?_eq j := by
    cases j with
    | object members =>
      simp [shape, Json.shape, entries?, Json.members?, ofJson, entriesOfJson_eq_map]
    | integer n => simp only [ofJson]; split <;> rfl
    | _ => simp [shape, Json.shape, entries?, Json.members?, ofJson]
  items?_eq j := by
    cases j with
    | array items => simp [shape, Json.shape, items?, Json.items?, ofJson, listOfJson_eq_map]
    | integer n => simp only [ofJson]; split <;> rfl
    | _ => simp [shape, Json.shape, items?, Json.items?, ofJson]

/-- So are a TOML value and the value that it stands for. -/
theorem maps_ofToml : Toml.shape.Maps shape ofToml where
  entries?_eq t := by
    cases t with
    | table entries =>
      simp [shape, Toml.shape, entries?, Toml.entries?, ofToml, entriesOfToml_eq_map]
    | _ => simp [shape, Toml.shape, entries?, Toml.entries?, ofToml]
  items?_eq t := by
    cases t with
    | array items => simp [shape, Toml.shape, items?, Toml.items?, ofToml, listOfToml_eq_map]
    | _ => simp [shape, Toml.shape, items?, Toml.items?, ofToml]

theorem ofJson_integer {n : Int} (hlow : -2 ^ 63 ≤ n) (hhigh : n < 2 ^ 63) :
    ofJson (.integer n) = .integer n := by
  have h64 : isInteger64 n = true := by
    simp only [isInteger64, Bool.and_eq_true, decide_eq_true_eq]
    exact ⟨hlow, hhigh⟩
  rw [ofJson, if_pos h64]

end Value

namespace Context

theorem ofJson_of_not_object {j : Json} (h : ∀ members, j ≠ .object members) :
    ofJson j = .error .notAnObject := by
  cases j with
  | object members => exact absurd rfl (h members)
  | integer n => by_cases h64 : Value.isInteger64 n = true <;> simp [ofJson, Value.ofJson, h64]
  | _ => simp [ofJson, Value.ofJson]

theorem ofToml_of_not_table {t : Toml} (h : ∀ entries, t ≠ .table entries) :
    ofToml t = .error .notATable := by
  cases t with
  | table entries => exact absurd rfl (h entries)
  | _ => simp [ofToml, Value.ofToml]

theorem bindings_of_ofJson {j : Json} {c : Context} (h : ofJson j = .ok c) :
    Value.ofJson j = .mapping c.bindings := by
  unfold ofJson at h
  split at h
  · rename_i entries hentries
    obtain rfl := Except.ok.inj h
    exact hentries
  · cases h

theorem bindings_of_ofToml {t : Toml} {c : Context} (h : ofToml t = .ok c) :
    Value.ofToml t = .mapping c.bindings := by
  unfold ofToml at h
  split at h
  · rename_i entries hentries
    obtain rfl := Except.ok.inj h
    exact hentries
  · cases h

end Context

/-! ## The same data -/

/-- Whether a JSON value and a TOML value are the same tree of strings, integers of 64
bits, floats, booleans, arrays and tables.  Tables are compared by what is under each
name. -/
inductive Json.SameAs : Json → Toml → Prop where
  | string (s : String) : Json.SameAs (.string s) (.string s)
  | integer {n : Int} (hlow : -2 ^ 63 ≤ n) (hhigh : n < 2 ^ 63) :
      Json.SameAs (.integer n) (.integer n)
  | float (x : Float) : Json.SameAs (.float x) (.float x)
  | boolean (b : Bool) : Json.SameAs (.bool b) (.boolean b)
  | array {js : List Json} {ts : List Toml} (hlength : js.length = ts.length)
      (hitems : ∀ (i : Nat) (j : Json) (t : Toml), js[i]? = some j → ts[i]? = some t →
        Json.SameAs j t) : Json.SameAs (.array js) (.array ts)
  | table {members : Entries Json} {entries : Entries Toml}
      (hnames : ∀ name, (∃ j, (name, j) ∈ members) ↔ ∃ t, (name, t) ∈ entries)
      (hentries : ∀ name j t, (name, j) ∈ members → (name, t) ∈ entries → Json.SameAs j t) :
      Json.SameAs (.object members) (.table entries)

/-- **The same data stands for the same value in both formats.** -/
theorem Json.SameAs.ofJson_eq {j : Json} {t : Toml} (h : j.SameAs t) (hj : Json.shape.InOrder j)
    (ht : Toml.shape.InOrder t) : Value.ofJson j = Value.ofToml t := by
  induction h with
  | string s => simp [Value.ofJson, Value.ofToml]
  | integer hlow hhigh => simp [Value.ofJson_integer hlow hhigh, Value.ofToml]
  | float x => simp [Value.ofJson, Value.ofToml]
  | boolean b => simp [Value.ofJson, Value.ofToml]
  | @array js ts hlength hitems ih =>
    rw [Value.ofJson, Value.ofToml, Value.listOfJson_eq_map, Value.listOfToml_eq_map]
    congr 1
    refine List.ext_getElem (by simpa using hlength) fun i hi hi' => ?_
    rw [List.length_map] at hi hi'
    rw [List.getElem_map, List.getElem_map]
    exact ih i _ _ (List.getElem?_eq_getElem hi) (List.getElem?_eq_getElem hi')
      (hj.items rfl _ (List.getElem_mem hi)) (ht.items rfl _ (List.getElem_mem hi'))
  | @table members entries hnames hentries ih =>
    obtain ⟨hmembers, hinner⟩ := hj.entries rfl
    obtain ⟨hordered, hinner'⟩ := ht.entries rfl
    have hsame : ∀ name j t, (name, j) ∈ members → (name, t) ∈ entries →
        Value.ofJson j = Value.ofToml t := fun name j t hmem hmem' =>
      ih name j t hmem hmem' (hinner _ hmem) (hinner' _ hmem')
    rw [Value.ofJson, Value.ofToml, Value.entriesOfJson_eq_map, Value.entriesOfToml_eq_map]
    congr 1
    refine (hmembers.map _).ext (hordered.map _) fun e => ?_
    simp only [List.mem_map]
    constructor
    · rintro ⟨⟨name, j⟩, hmem, rfl⟩
      obtain ⟨t, hmem'⟩ := (hnames name).1 ⟨j, hmem⟩
      exact ⟨(name, t), hmem', by rw [hsame name j t hmem hmem']⟩
    · rintro ⟨⟨name, t⟩, hmem', rfl⟩
      obtain ⟨j, hmem⟩ := (hnames name).2 ⟨t, hmem'⟩
      exact ⟨(name, j), hmem, by rw [hsame name j t hmem hmem']⟩

/-! ## What is read is in order -/

section Reading

/-- What all items have that a reader reads, those of a list between brackets have. -/
theorem Reader.forall_of_separated {α : Type} {P : α → Prop} {item : Reader α}
    {skip : List Char → Option (List Char)} {close : Char}
    (hitem : ∀ cs x rest, item cs = some (x, rest) → P x) {fuel : Nat} {cs rest : List Char}
    {xs : List α} (h : Reader.separated skip close item fuel cs = some (xs, rest)) :
    ∀ x ∈ xs, P x := by
  induction fuel generalizing cs xs rest with
  | zero => cases h
  | succ fuel ih =>
    simp only [Reader.separated, Option.bind_eq_bind, Option.bind_eq_some_iff, Option.pure_def] at h
    obtain ⟨⟨x, behind⟩, hx, skipped, -, h⟩ := h
    have hP := hitem _ _ _ hx
    cases skipped with
    | nil => cases h
    | cons c more =>
      simp only at h
      split_ifs at h
      · simp only [Option.bind_eq_some_iff] at h
        obtain ⟨_, -, ⟨ys, _⟩, hys, h⟩ := h
        obtain ⟨rfl, -⟩ := Prod.mk.inj (Option.some.inj h)
        exact List.forall_mem_cons.2 ⟨hP, ih hys⟩
      · obtain ⟨rfl, -⟩ := Prod.mk.inj (Option.some.inj h)
        exact List.forall_mem_singleton.2 hP

namespace Json

theorem forall_of_items {α : Type} {P : α → Prop} {item : Reader α} {close : Char}
    (hitem : ∀ cs x rest, item cs = some (x, rest) → P x) {cs rest : List Char} {xs : List α}
    (h : items close item cs = some (xs, rest)) : ∀ x ∈ xs, P x := by
  unfold items at h
  split at h
  · cases h
  · split_ifs at h
    · obtain ⟨rfl, -⟩ := Prod.mk.inj (Option.some.inj h)
      simp
    · exact Reader.forall_of_separated hitem h

/-- Whether a value is neither an array nor an object. -/
def IsScalar (j : Json) : Prop := j.members? = none ∧ j.items? = none

theorem IsScalar.inOrder {j : Json} (h : j.IsScalar) : shape.InOrder j :=
  .scalar h.1 h.2

theorem isScalar_of_ofParts {negative : Bool} {significand : Nat} {exponent : Int} {j : Json}
    (h : Number.ofParts negative significand exponent = some j) : j.IsScalar := by
  obtain ⟨x, -, rfl⟩ := Option.map_eq_some_iff.1 h
  exact ⟨rfl, rfl⟩

theorem isScalar_of_exponentPart {negative : Bool} {significand : Nat} {before : Int} {j : Json}
    {cs rest : List Char}
    (h : Number.exponentPart negative significand before cs = some (j, rest)) : j.IsScalar := by
  simp only [Number.exponentPart, Option.bind_eq_bind, Option.bind_eq_some_iff,
    Option.pure_def] at h
  obtain ⟨⟨ds, behind⟩, -, h⟩ := h
  split at h
  · obtain ⟨j', hj, h⟩ := Option.bind_eq_some_iff.1 h
    obtain ⟨rfl, -⟩ := Prod.mk.inj (Option.some.inj h)
    exact isScalar_of_ofParts hj
  · -- whatever the sign of the exponent is
    split at h
    all_goals
      split at h
      · cases h
      · obtain ⟨rfl, -⟩ := Prod.mk.inj (Option.some.inj h)
        exact ⟨rfl, rfl⟩

theorem isScalar_of_afterFraction {negative : Bool} {significand : Nat} {exponent : Int} {j : Json}
    {cs rest : List Char}
    (h : Number.afterFraction negative significand exponent cs = some (j, rest)) : j.IsScalar := by
  unfold Number.afterFraction at h
  split at h
  · exact isScalar_of_exponentPart h
  · exact isScalar_of_exponentPart h
  · obtain ⟨j', hj, h⟩ := Option.map_eq_some_iff.1 h
    obtain ⟨rfl, -⟩ := Prod.mk.inj h
    exact isScalar_of_ofParts hj

theorem isScalar_ofSignificand (negative : Bool) (significand : Nat) :
    (Number.ofSignificand negative significand).IsScalar := by
  unfold Number.ofSignificand
  split_ifs <;> exact ⟨rfl, rfl⟩

theorem isScalar_of_afterInteger {negative : Bool} {significand counted : Nat} {j : Json}
    {cs rest : List Char}
    (h : Number.afterInteger negative significand counted cs = some (j, rest)) : j.IsScalar := by
  unfold Number.afterInteger at h
  split at h
  · simp only [Option.bind_eq_bind, Option.bind_eq_some_iff] at h
    obtain ⟨⟨ds, behind⟩, -, h⟩ := h
    exact isScalar_of_afterFraction h
  · exact isScalar_of_exponentPart h
  · exact isScalar_of_exponentPart h
  · split at h
    · obtain ⟨rfl, -⟩ := Prod.mk.inj (Option.some.inj h)
      exact isScalar_ofSignificand negative significand
    · obtain ⟨j', hj, h⟩ := Option.map_eq_some_iff.1 h
      obtain ⟨rfl, -⟩ := Prod.mk.inj h
      exact isScalar_of_ofParts hj

/-- A number is a scalar, however it is written. -/
theorem isScalar_of_readNumber {j : Json} {cs rest : List Char}
    (h : Number.read cs = some (j, rest)) : j.IsScalar := by
  simp only [Number.read, Option.bind_eq_bind, Option.bind_eq_some_iff] at h
  obtain ⟨⟨ds, behind⟩, -, h⟩ := h
  split at h
  · cases h
  · exact isScalar_of_afterInteger h

theorem isScalar_of_scalar {j : Json} {cs rest : List Char} (h : scalar cs = some (j, rest)) :
    j.IsScalar := by
  unfold scalar at h
  split at h
  case h_5 => exact isScalar_of_readNumber h
  all_goals
    obtain ⟨_, -, h⟩ := Option.map_eq_some_iff.1 h
    obtain ⟨rfl, -⟩ := Prod.mk.inj h
    exact ⟨rfl, rfl⟩

theorem inOrder_of_value {depth : Nat} {j : Json} {cs rest : List Char}
    (h : value depth cs = some (j, rest)) : shape.InOrder j := by
  induction depth generalizing j cs rest with
  | zero => exact (isScalar_of_scalar h).inOrder
  | succ depth ih =>
    unfold value at h
    split at h
    · obtain ⟨⟨js, behind⟩, hjs, h⟩ := Option.map_eq_some_iff.1 h
      obtain ⟨rfl, -⟩ := Prod.mk.inj h
      exact .ofItems rfl rfl (forall_of_items (fun cs x rest hx => ih hx) hjs)
    · obtain ⟨⟨ms, behind⟩, hms, h⟩ := Option.map_eq_some_iff.1 h
      obtain ⟨rfl, -⟩ := Prod.mk.inj h
      have hmember : ∀ cs m rest, member (value depth) cs = some (m, rest) → shape.InOrder m.2 := by
        intro cs m rest hm
        simp only [member, Option.bind_eq_bind, Option.bind_eq_some_iff, Option.pure_def] at hm
        obtain ⟨⟨name, behind⟩, -, hm⟩ := hm
        split at hm
        · obtain ⟨⟨j, behind⟩, hj, hm⟩ := Option.bind_eq_some_iff.1 hm
          obtain ⟨rfl, -⟩ := Prod.mk.inj (Option.some.inj hm)
          exact ih hj
        · cases hm
      exact .ofPairs rfl rfl (forall_of_items hmember hms)
    · exact (isScalar_of_scalar h).inOrder

/-- **What is read has its objects in name order.** -/
theorem inOrder_of_read? {text : String} {j : Json} (h : read? text = some j) :
    shape.InOrder j := by
  simp only [read?, Option.bind_eq_bind, Option.bind_eq_some_iff] at h
  obtain ⟨⟨j', rest⟩, hj, h⟩ := h
  split at h
  · obtain rfl := Option.some.inj h
    exact inOrder_of_value hj
  · cases h

end Json

namespace Toml

theorem inOrder_of_markedMoment? {t t' : Toml} (h : markedMoment? t = some t') :
    shape.InOrder t' := by
  unfold markedMoment? at h
  split at h
  · obtain ⟨m, -, rfl⟩ := Option.map_eq_some_iff.1 h
    exact .scalar rfl rfl
  · cases h

mutual

theorem inOrder_of_settle? : ∀ {t t' : Toml}, settle? t = some t' → shape.InOrder t'
  | .array items, t', h => by
    rw [settle?] at h
    obtain ⟨items', hitems, rfl⟩ := Option.map_eq_some_iff.1 h
    exact .ofItems rfl rfl (inOrder_of_settleList? hitems)
  | .table [], t', h => by
    obtain rfl := Option.some.inj h
    exact .ofPairs rfl rfl (List.forall_mem_nil _)
  | .table ((name, t) :: rest), t', h => by
    rw [settle?] at h
    split at h
    · exact inOrder_of_markedMoment? h
    · simp only [Option.bind_eq_bind, Option.bind_eq_some_iff, Option.pure_def] at h
      obtain ⟨first, hfirst, others, hothers, h⟩ := h
      obtain rfl := Option.some.inj h
      exact .ofPairs rfl rfl (List.forall_mem_cons.2
        ⟨inOrder_of_settle? hfirst, inOrder_of_settlePairs? hothers⟩)
  | .string _, t', h | .integer _, t', h | .float _, t', h | .boolean _, t', h
  | .moment _, t', h => by
    obtain rfl := Option.some.inj h
    exact .scalar rfl rfl

theorem inOrder_of_settleList? : ∀ {items items' : List Toml}, settleList? items = some items' →
    ∀ t ∈ items', shape.InOrder t
  | [], items', h => by
    obtain rfl := Option.some.inj h
    simp
  | t :: rest, items', h => by
    simp only [settleList?, Option.bind_eq_bind, Option.bind_eq_some_iff, Option.pure_def] at h
    obtain ⟨first, hfirst, others, hothers, h⟩ := h
    obtain rfl := Option.some.inj h
    exact List.forall_mem_cons.2 ⟨inOrder_of_settle? hfirst, inOrder_of_settleList? hothers⟩

theorem inOrder_of_settlePairs? : ∀ {pairs pairs' : List (String × Toml)},
    settlePairs? pairs = some pairs' → ∀ e ∈ pairs', shape.InOrder e.2
  | [], pairs', h => by
    obtain rfl := Option.some.inj h
    simp
  | (name, t) :: rest, pairs', h => by
    simp only [settlePairs?, Option.bind_eq_bind, Option.bind_eq_some_iff, Option.pure_def] at h
    obtain ⟨first, hfirst, others, hothers, h⟩ := h
    obtain rfl := Option.some.inj h
    exact List.forall_mem_cons.2 ⟨inOrder_of_settle? hfirst, inOrder_of_settlePairs? hothers⟩

end

/-- **What is read has its tables in name order.** -/
theorem inOrder_of_settleEntries? {entries settled : List (String × Toml)}
    (h : settleEntries? entries = some settled) : shape.InOrder (.table settled) := by
  obtain ⟨pairs, hpairs, rfl⟩ := Option.map_eq_some_iff.1 h
  exact .ofPairs rfl rfl (inOrder_of_settlePairs? hpairs)

end Toml

end Reading

namespace Context

/-- **The same table is the same context in both formats.** -/
theorem ofJson_eq_ofToml {members : Entries Json} {entries : Entries Toml}
    (h : Json.SameAs (.object members) (.table entries))
    (hmembers : Json.shape.InOrder (.object members))
    (hentries : Toml.shape.InOrder (.table entries)) :
    ofJson (.object members) = ofToml (.table entries) := by
  have hvalue := h.ofJson_eq hmembers hentries
  simp only [Value.ofJson, Value.ofToml, Value.mapping.injEq] at hvalue
  simp only [ofJson, ofToml, Value.ofJson, Value.ofToml, hvalue]

/-- **The same table is the same context in both formats when it is read from texts**,
since what is read has its entries in name order. -/
theorem ofJsonText_eq_ofTomlText {text text' : String} {members : Entries Json}
    {entries : List (String × Toml)} (hread : Json.read? text = some (.object members))
    (hread' : (Toml.read? text').bind Toml.settleEntries? = some entries)
    (hsame : Json.SameAs (.object members) (.table entries)) :
    ofJsonText text = ofTomlText text' := by
  obtain ⟨read, -, hsettle⟩ := Option.bind_eq_some_iff.1 hread'
  have heq := ofJson_eq_ofToml hsame (Json.inOrder_of_read? hread)
    (Toml.inOrder_of_settleEntries? hsettle)
  rw [ofJsonText, hread, ofTomlText, hread']
  exact heq

/-- The order in a text does not count. -/
example : ofJsonText "\x7b\"k\": \x7b\"+1\": [\"x\"]\x7d, \"\": true\x7d" =
    ofTomlText "\"\" = true\nk.\"+1\" = [\"x\"]\n" := by cbv

/-- **A context has what the data has that it was made of.**  It is made of a JSON
value exactly if that is an object, and of a TOML value if that is a table.  Then what
a dotted name reaches in it is what its segments lead to in the data, converted:
through the entry with the segment for its name, or the element at the position that
the segment denotes.  An integer of 64 bits is kept as it is.  The same table makes the
same context in both formats. -/
theorem lookup?_of_data :
    (∀ j : Json, ((∃ c, ofJson j = .ok c) ↔ ∃ members, j = .object members) ∧
      ∀ c, ofJson j = .ok c → ∀ path,
        (∀ w, c.lookup? path = some w ↔
          ∃ k, Json.shape.Reaches j (segments path) k ∧ Value.ofJson k = w) ∧
        ∀ n : Int, -2 ^ 63 ≤ n → n < 2 ^ 63 →
          Json.shape.Reaches j (segments path) (.integer n) →
            c.lookup? path = some (.integer n)) ∧
    (∀ t : Toml, ((∃ c, ofToml t = .ok c) ↔ ∃ entries, t = .table entries) ∧
      ∀ c, ofToml t = .ok c → ∀ path,
        (∀ w, c.lookup? path = some w ↔
          ∃ u, Toml.shape.Reaches t (segments path) u ∧ Value.ofToml u = w) ∧
        ∀ n : Int, Toml.shape.Reaches t (segments path) (.integer n) →
          c.lookup? path = some (.integer n)) ∧
    ∀ members entries, Json.SameAs (.object members) (.table entries) →
      Json.shape.InOrder (.object members) → Toml.shape.InOrder (.table entries) →
        ∃ c, ofJson (.object members) = .ok c ∧ ofToml (.table entries) = .ok c := by
  refine ⟨fun j => ⟨⟨?_, ?_⟩, fun c hc path => ?_⟩, fun t => ⟨⟨?_, ?_⟩, fun c hc path => ?_⟩,
    fun members entries hsame hmembers hentries => ?_⟩
  · rintro ⟨c, hc⟩
    by_contra hno
    rw [ofJson_of_not_object (not_exists.1 hno)] at hc
    cases hc
  · rintro ⟨members, rfl⟩
    exact ⟨_, rfl⟩
  · have hlookup : ∀ w, c.lookup? path = some w ↔
        ∃ k, Json.shape.Reaches j (segments path) k ∧ Value.ofJson k = w := fun w =>
      Value.maps_ofJson.lookup?_eq_some_iff (bindings_of_ofJson hc)
    exact ⟨hlookup, fun n hlow hhigh hreaches =>
      (hlookup _).2 ⟨_, hreaches, Value.ofJson_integer hlow hhigh⟩⟩
  · rintro ⟨c, hc⟩
    by_contra hno
    rw [ofToml_of_not_table (not_exists.1 hno)] at hc
    cases hc
  · rintro ⟨entries, rfl⟩
    exact ⟨_, rfl⟩
  · have hlookup : ∀ w, c.lookup? path = some w ↔
        ∃ u, Toml.shape.Reaches t (segments path) u ∧ Value.ofToml u = w := fun w =>
      Value.maps_ofToml.lookup?_eq_some_iff (bindings_of_ofToml hc)
    exact ⟨hlookup, fun n hreaches => (hlookup _).2 ⟨_, hreaches, by rw [Value.ofToml]⟩⟩
  · exact ⟨_, rfl, (ofJson_eq_ofToml hsame hmembers hentries).symm⟩

/-- A table that is written in either format, with keys that are empty or look like a
position. -/
theorem lookup?_of_data_reordered :
    (∃ c, ofJson
        (.object [("", .array [.null, .integer 9223372036854775807]), ("a.b", .bool true)]) =
          .ok c ∧ c.lookup? ".+01" = some (.integer 9223372036854775807)) ∧
      ∃ c, ofJson (.object [("", .bool true), ("k", .object [("+1", .array [.string "x"])])]) =
          .ok c ∧
        ofToml (.table [("", .boolean true), ("k", .table [("+1", .array [.string "x"])])]) =
          .ok c := by
  obtain ⟨hjson, -, hboth⟩ := lookup?_of_data
  constructor
  · obtain ⟨hok, hlookup⟩ :=
      hjson (.object [("", .array [.null, .integer 9223372036854775807]), ("a.b", .bool true)])
    obtain ⟨c, hc⟩ := hok.2 ⟨_, rfl⟩
    have hsegments : segments ".+01" = ["", "+01"] := by decide
    have hposition : IsPosition "+01" 1 :=
      ⟨by decide, ['0', '1'], by simp, by simp, by simp [Nat.ofDigitChars], .inr (by decide)⟩
    have hlow : (-2 ^ 63 : Int) ≤ 9223372036854775807 := by norm_num
    have hhigh : (9223372036854775807 : Int) < 2 ^ 63 := by norm_num
    refine ⟨c, hc, (hlookup c hc ".+01").2 9223372036854775807 hlow hhigh ?_⟩
    rw [hsegments]
    exact .entry rfl rfl (.item rfl hposition rfl (.here _))
  · have hread : Json.read? "\x7b\"k\": \x7b\"+1\": [\"x\"]\x7d, \"\": true\x7d" = some (.object
        [("", .bool true), ("k", .object [("+1", .array [.string "x"])])]) := by cbv
    have hread' : (Toml.read? "\"\" = true\nk.\"+1\" = [\"x\"]\n").bind Toml.settleEntries? = some
        [("", .boolean true), ("k", .table [("+1", .array [.string "x"])])] := by cbv
    have harray : Json.SameAs (.array [.string "x"]) (.array [.string "x"]) :=
      .array rfl fun i j t hj ht => by
        cases i with
        | zero =>
          obtain rfl := Option.some.inj hj
          obtain rfl := Option.some.inj ht
          exact .string "x"
        | succ i => cases hj
    have hinner : Json.SameAs (.object [("+1", .array [.string "x"])])
        (.table [("+1", .array [.string "x"])]) :=
      .table (by simp) fun name j t hj ht => by
        simp only [List.mem_singleton, Prod.mk.injEq] at hj ht
        obtain ⟨⟨-, rfl⟩, -, rfl⟩ := And.intro hj ht
        exact harray
    obtain ⟨read, -, hsettle⟩ := Option.bind_eq_some_iff.1 hread'
    refine hboth _ _ (.table (by simp [exists_or]) fun name j t hj ht => ?_)
      (Json.inOrder_of_read? hread) (Toml.inOrder_of_settleEntries? hsettle)
    simp only [List.mem_cons, List.not_mem_nil, or_false, Prod.mk.injEq] at hj ht
    rcases hj with ⟨rfl, rfl⟩ | ⟨rfl, rfl⟩ <;> rcases ht with ⟨h, rfl⟩ | ⟨h, rfl⟩
    · exact .boolean true
    · exact absurd h (by decide)
    · exact absurd h (by decide)
    · exact hinner

end Context

end BracketTemplate
