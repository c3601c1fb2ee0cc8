/-
# What paths reach in nested data

JSON values, TOML values and the values of template variables are made up in the same
way (`Shape`): of entries under names, of elements at positions, and of scalars.  A
list of segments leads through all of them in the same way (`Shape.Reaches`).

| at | a segment leads to |
| --- | --- |
| entries | what is under it as a name, whatever characters it has |
| elements | the one at the position that it denotes in decimal digits |
| a scalar | nothing |

A conversion that makes entries of entries and elements of elements moves what is
reached along with it (`Shape.Maps.reaches_iff`), and a look-up in a context is a walk
of this kind (`lookup?_eq_some_iff`).  So one induction tells for both formats what is
found in a context that was made of their data.
-/

import BracketTemplate.Proofs.DottedNames
import BracketTemplate.Proofs.NameOrder

namespace BracketTemplate

/-! ## Positions -/

/-- Whether a segment denotes a position: a number of at most 64 bits in decimal
digits, with `+` in front or not. -/
def IsPosition (segment : String) (i : Nat) : Prop :=
  i < 2 ^ 64 ∧ ∃ digits : List Char, digits ≠ [] ∧ (∀ c ∈ digits, c.isDigit) ∧
    Nat.ofDigitChars 10 digits 0 = i ∧
    (segment.toList = digits ∨ segment.toList = '+' :: digits)

/-- Decimal digits denote what they denote everywhere. -/
theorem Decimal.ofDigits_eq {digits : List Char} (h : ∀ c ∈ digits, c.isDigit) :
    Decimal.ofDigits digits = Nat.ofDigitChars 10 digits 0 := by
  rw [Decimal.ofDigits, Nat.ofDigitChars_eq_foldl]
  refine List.foldl_ext _ _ _ fun n c hc => ?_
  have hdigit : Decimal.isDigit c = true := h c hc
  simp only [Decimal.isDigit, Bool.and_eq_true, decide_eq_true_eq] at hdigit
  simp [Decimal.digit?, hdigit]

namespace Value

/-- The digits of a segment are what is left of it without a `+` in front. -/
theorem index?_eq {segment : String} {digits : List Char}
    (h : segment.toList = '+' :: digits ∨ segment.toList = digits ∧ digits.head? ≠ some '+') :
    index? segment =
      if digits ≠ [] ∧ digits.all Decimal.isDigit then
        if Decimal.ofDigits digits ≤ maxIndex then some (Decimal.ofDigits digits) else none
      else none := by
  unfold index?
  rcases h with h | ⟨h, hhead⟩
  · rw [h]
    rfl
  · rw [h]
    dsimp only
    have hne : ∀ rest, digits ≠ '+' :: rest := fun rest heq => hhead (by rw [heq]; rfl)
    split
    · exact absurd rfl (hne _)
    · rfl

theorem index?_eq_some_iff {segment : String} {i : Nat} :
    index? segment = some i ↔ IsPosition segment i := by
  have hsize : ∀ n, n ≤ maxIndex ↔ n < 2 ^ 64 := fun n => by
    rw [show maxIndex = 2 ^ 64 - 1 from rfl]
    omega
  constructor
  · obtain ⟨digits, hdigits⟩ : ∃ digits, segment.toList = '+' :: digits ∨
        segment.toList = digits ∧ digits.head? ≠ some '+' := by
      by_cases hplus : segment.toList.head? = some '+'
      · obtain ⟨digits, h⟩ := List.head?_eq_some_iff.1 hplus
        exact ⟨digits, .inl h⟩
      · exact ⟨segment.toList, .inr ⟨rfl, hplus⟩⟩
    rw [index?_eq hdigits]
    intro h
    split_ifs at h with hall hle
    obtain rfl := Option.some.inj h
    have hchars : ∀ c ∈ digits, c.isDigit := List.all_eq_true.1 hall.2
    exact ⟨(hsize _).1 hle, digits, hall.1, hchars, (Decimal.ofDigits_eq hchars).symm,
      hdigits.symm.imp_left And.left⟩
  · rintro ⟨hi, digits, hne, hchars, hvalue, hsegment⟩
    have hhead : digits.head? ≠ some '+' := fun hplus =>
      absurd (hchars '+' (List.mem_of_head? hplus)) (by decide)
    have hall : digits.all Decimal.isDigit = true := List.all_eq_true.2 hchars
    rw [index?_eq (hsegment.symm.imp_right fun h => ⟨h, hhead⟩), if_pos ⟨hne, hall⟩,
      Decimal.ofDigits_eq hchars, hvalue, if_pos ((hsize i).2 hi)]

end Value

/-! ## Shapes -/

/-- How the values of a format are made up: what is in one under names, if it is a
table, and what is in it by position, if it is a list. -/
structure Shape (α : Type) where
  entries? : α → Option (Entries α)
  items? : α → Option (List α)

namespace Shape

variable {α β : Type} {S : Shape α} {T : Shape β} {f : α → β}

/-- Whether some segments lead from a value to another one. -/
inductive Reaches (S : Shape α) : α → List String → α → Prop where
  | here (a : α) : S.Reaches a [] a
  | entry {a b c : α} {entries : Entries α} {name : String} {rest : List String}
      (hentries : S.entries? a = some entries) (hname : entries.lookup name = some b)
      (hrest : S.Reaches b rest c) : S.Reaches a (name :: rest) c
  | item {a b c : α} {items : List α} {segment : String} {i : Nat} {rest : List String}
      (hitems : S.items? a = some items) (hposition : IsPosition segment i)
      (hitem : items[i]? = some b) (hrest : S.Reaches b rest c) : S.Reaches a (segment :: rest) c

/-- Whether a value and all that is in it have their entries in name order. -/
inductive InOrder (S : Shape α) : α → Prop where
  | intro {a : α} (hnames : ∀ entries, S.entries? a = some entries → Entries.InOrder entries)
      (hentries : ∀ entries, S.entries? a = some entries → ∀ e ∈ entries, S.InOrder e.2)
      (hitems : ∀ items, S.items? a = some items → ∀ b ∈ items, S.InOrder b) : S.InOrder a

theorem InOrder.scalar {a : α} (hentries : S.entries? a = none) (hitems : S.items? a = none) :
    S.InOrder a :=
  .intro (fun _ h => by simp [hentries] at h) (fun _ h => by simp [hentries] at h)
    fun _ h => by simp [hitems] at h

/-- A list is in order if its elements are. -/
theorem InOrder.ofItems {a : α} {items : List α} (hentries : S.entries? a = none)
    (hitems : S.items? a = some items) (h : ∀ b ∈ items, S.InOrder b) : S.InOrder a := by
  refine .intro (fun _ h' => by simp [hentries] at h') (fun _ h' => by simp [hentries] at h')
    fun items' hitems' => ?_
  obtain rfl : items = items' := Option.some.inj (hitems.symm.trans hitems')
  exact h

/-- A table that was put together from entries is in order if they are. -/
theorem InOrder.ofPairs {a : α} {pairs : List (String × α)}
    (hentries : S.entries? a = some (Entries.ofList pairs)) (hitems : S.items? a = none)
    (h : ∀ e ∈ pairs, S.InOrder e.2) : S.InOrder a := by
  refine .intro (fun entries h' => ?_) (fun entries h' e he => ?_) fun _ h' => by
    simp [hitems] at h'
  · obtain rfl := Option.some.inj (hentries.symm.trans h')
    exact Entries.inOrder_ofList pairs
  · obtain rfl := Option.some.inj (hentries.symm.trans h')
    exact h e (Entries.mem_of_mem_ofList he)

theorem InOrder.entries {a : α} {entries : Entries α}
    (h : S.InOrder a) (hentries : S.entries? a = some entries) :
    Entries.InOrder entries ∧ ∀ e ∈ entries, S.InOrder e.2 := by
  cases h with
  | intro hnames hinner _ => exact ⟨hnames _ hentries, hinner _ hentries⟩

theorem InOrder.items {a : α} {items : List α}
    (h : S.InOrder a) (hitems : S.items? a = some items) : ∀ b ∈ items, S.InOrder b := by
  cases h with
  | intro _ _ hinner => exact hinner _ hitems

/-- Whether a conversion makes entries of entries, under the same names, elements of
elements, at the same positions, and scalars of scalars. -/
structure Maps (S : Shape α) (T : Shape β) (f : α → β) : Prop where
  entries?_eq : ∀ a, T.entries? (f a) = (S.entries? a).map (·.map fun e => (e.1, f e.2))
  items?_eq : ∀ a, T.items? (f a) = (S.items? a).map (·.map f)

/-- What is reached is converted. -/
theorem Maps.reaches (h : S.Maps T f) {a b : α} {segments : List String}
    (hreaches : S.Reaches a segments b) : T.Reaches (f a) segments (f b) := by
  induction hreaches with
  | here a => exact .here (f a)
  | entry hentries hname _ ih =>
    refine .entry (by rw [h.entries?_eq, hentries]; rfl) ?_ ih
    rw [Entries.lookup_map, hname]
    rfl
  | item hitems hposition hitem _ ih =>
    refine .item (by rw [h.items?_eq, hitems]; rfl) hposition ?_ ih
    rw [List.getElem?_map, hitem]
    rfl

/-- Nothing else is reached. -/
theorem Maps.exists_of_reaches (h : S.Maps T f) {a : α} {w : β} {segments : List String}
    (hreaches : T.Reaches (f a) segments w) : ∃ b, S.Reaches a segments b ∧ f b = w := by
  induction segments generalizing a with
  | nil =>
    cases hreaches with
    | here => exact ⟨a, .here a, rfl⟩
  | cons segment rest ih =>
    cases hreaches with
    | entry hentries hname hrest =>
      rw [h.entries?_eq] at hentries
      obtain ⟨entries, hfrom, rfl⟩ := Option.map_eq_some_iff.1 hentries
      rw [Entries.lookup_map] at hname
      obtain ⟨b, hb, rfl⟩ := Option.map_eq_some_iff.1 hname
      obtain ⟨c, hc, hw⟩ := ih hrest
      exact ⟨c, .entry hfrom hb hc, hw⟩
    | item hitems hposition hitem hrest =>
      rw [h.items?_eq] at hitems
      obtain ⟨items, hfrom, rfl⟩ := Option.map_eq_some_iff.1 hitems
      rw [List.getElem?_map] at hitem
      obtain ⟨b, hb, rfl⟩ := Option.map_eq_some_iff.1 hitem
      obtain ⟨c, hc, hw⟩ := ih hrest
      exact ⟨c, .item hfrom hposition hb hc, hw⟩

/-- **What is reached in converted data is what was reached in it, converted.** -/
theorem Maps.reaches_iff (h : S.Maps T f) {a : α} {w : β} {segments : List String} :
    T.Reaches (f a) segments w ↔ ∃ b, S.Reaches a segments b ∧ f b = w :=
  ⟨h.exists_of_reaches, fun ⟨_, hb, hw⟩ => hw ▸ h.reaches hb⟩

end Shape

/-! ## Look-ups -/

namespace Value

/-- What is in a mapping. -/
def entries? : Value → Option (Entries Value)
  | .mapping entries => some entries
  | _ => none

/-- How values are made up. -/
def shape : Shape Value := ⟨entries?, items?⟩

/-- **A walk finds what the segments lead to.** -/
theorem walk?_eq_some_iff {v w : Value} {segments : List String} :
    v.walk? segments = some w ↔ shape.Reaches v segments w := by
  induction segments generalizing v with
  | nil =>
    rw [walk?_nil, Option.some_inj]
    constructor
    · rintro rfl
      exact .here v
    · intro h
      cases h
      rfl
  | cons segment rest ih =>
    rw [walk?, Option.bind_eq_some_iff]
    simp only [ih]
    constructor
    · rintro ⟨b, hb, hrest⟩
      cases v with
      | mapping entries =>
        rw [child?, Entries.find?_eq_lookup] at hb
        exact .entry rfl hb hrest
      | sequence items =>
        obtain ⟨i, hi, hb⟩ := Option.bind_eq_some_iff.1 hb
        exact .item rfl (index?_eq_some_iff.1 hi) hb hrest
      | _ => simp [child?] at hb
    · intro h
      cases h with
      | entry hentries hname hrest =>
        cases v with
        | mapping entries =>
          obtain rfl := Option.some.inj hentries
          exact ⟨_, (Entries.find?_eq_lookup _ _).trans hname, hrest⟩
        | _ => simp [shape, entries?] at hentries
      | item hitems hposition hitem hrest =>
        cases v with
        | sequence items =>
          obtain rfl := Option.some.inj hitems
          exact ⟨_, Option.bind_eq_some_iff.2 ⟨_, index?_eq_some_iff.2 hposition, hitem⟩, hrest⟩
        | _ => simp [shape, items?] at hitems

end Value

namespace Context

/-- **A look-up finds what the segments of the name lead to**, from the variables on. -/
theorem lookup?_eq_some_iff {c : Context} {path : String} {w : Value} :
    c.lookup? path = some w ↔
      Value.shape.Reaches (.mapping c.bindings) (segments path) w := by
  obtain ⟨first, rest, hsegments⟩ := List.exists_cons_of_ne_nil (segments_ne_nil path)
  rw [lookup?_of_segments hsegments, hsegments, ← Value.walk?_eq_some_iff]
  rfl

end Context

/-- **A context that was made of data gives what a walk through the data reaches**,
converted. -/
theorem Shape.Maps.lookup?_eq_some_iff {α : Type} {S : Shape α} {f : α → Value}
    (h : S.Maps Value.shape f) {a : α} {c : Context} (hc : f a = .mapping c.bindings)
    {path : String} {w : Value} :
    c.lookup? path = some w ↔ ∃ b, S.Reaches a (Context.segments path) b ∧ f b = w := by
  rw [Context.lookup?_eq_some_iff, ← hc, h.reaches_iff]

end BracketTemplate
