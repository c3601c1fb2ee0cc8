/-
# Values as their leaves

The text of a value is that of its leaves, from left to right, with a comma
between two (`text?_eq_some_iff_leaves`).  A sequence has the leaves of its
elements, however deep they are nested; an empty one is a leaf itself, so that
every value has a leaf and no comma is lost (`leaves_ne_nil`).

| leaf | text |
| --- | --- |
| boolean, number, string | as it prints |
| null, empty sequence | nothing |

A null has no text of its own, only as an element.  A mapping has none wherever
it is, and neither has a sequence in which there is one, directly or in further
sequences (`HoldsMapping`).
-/

import BracketTemplate.Value
import Mathlib

namespace BracketTemplate

namespace Value

/-! ## What is in a value -/

mutual

/-- The leaves of a value, from left to right. -/
def leaves : Value → List Value
  | .sequence [] => [.sequence []]
  | .sequence (v :: rest) => leaves v ++ leavesOfItems rest
  | v => [v]

/-- The leaves of some values, one after another. -/
def leavesOfItems : List Value → List Value
  | [] => []
  | v :: rest => leaves v ++ leavesOfItems rest

end

/-- What a leaf prints as. -/
def leafText : Value → String
  | .bool b => if b then "true" else "false"
  | .integer n => Decimal.intText n
  | .float x => Decimal.floatText x
  | .string s => s
  | .null | .sequence _ | .mapping _ => ""

/-- The leaves of a value as a text, with a comma between two. -/
def joinedLeaves (v : Value) : String := ",".intercalate (v.leaves.map leafText)

/-- Whether a value is a mapping, or a sequence from which one is reached by going
through sequences. -/
inductive HoldsMapping : Value → Prop where
  | here (entries : List (String × Value)) : HoldsMapping (.mapping entries)
  | inside {items : List Value} {v : Value} (hmem : v ∈ items) (h : HoldsMapping v) :
      HoldsMapping (.sequence items)

theorem leavesOfItems_eq_flatMap (items : List Value) :
    leavesOfItems items = items.flatMap leaves := by
  induction items with
  | nil => simp [leavesOfItems]
  | cons v rest ih => simp [leavesOfItems, ih]

theorem leaves_sequence {items : List Value} (h : items ≠ []) :
    (sequence items).leaves = items.flatMap leaves := by
  cases items with
  | nil => exact absurd rfl h
  | cons v rest => rw [leaves, leavesOfItems_eq_flatMap, List.flatMap_cons]

/-- Every value has a leaf. -/
theorem leaves_ne_nil : ∀ v : Value, v.leaves ≠ []
  | .sequence [] => by simp [leaves]
  | .sequence (v :: rest) => by
    rw [leaves]
    exact List.append_ne_nil_of_left_ne_nil (leaves_ne_nil v) _
  | .null | .bool _ | .integer _ | .float _ | .string _ | .mapping _ => by simp [leaves]

/-- Lists of texts may be joined one after another, if none of them is empty. -/
theorem intercalate_flatMap {α : Type} (sep : String) (f : α → List String) (xs : List α)
    (h : ∀ x ∈ xs, f x ≠ []) :
    sep.intercalate (xs.map fun x => sep.intercalate (f x)) = sep.intercalate (xs.flatMap f) := by
  induction xs with
  | nil => rfl
  | cons x xs ih =>
    have ih := ih fun y hy => h y (List.mem_cons_of_mem x hy)
    cases xs with
    | nil => simp
    | cons y ys =>
      have hne : (y :: ys).flatMap f ≠ [] := by
        rw [List.flatMap_cons]
        exact List.append_ne_nil_of_left_ne_nil (h y (by simp)) _
      rw [List.map_cons, String.intercalate_cons_of_ne_nil (by simp), ih,
        List.flatMap_cons (x := x),
        String.intercalate_append_of_ne_nil (h x (by simp)) hne]

/-- The leaves of a sequence, joined, are those of its elements. -/
theorem joinedLeaves_sequence (items : List Value) :
    (sequence items).joinedLeaves = ",".intercalate (items.map joinedLeaves) := by
  cases items with
  | nil => simp [joinedLeaves, leaves, leafText]
  | cons v rest =>
    have hleaves : ∀ w ∈ v :: rest, w.leaves.map leafText ≠ [] := fun w _ => by
      simp [leaves_ne_nil w]
    rw [joinedLeaves, leaves_sequence (by simp), List.map_flatMap,
      ← intercalate_flatMap "," (fun w => w.leaves.map leafText) (v :: rest) hleaves]
    rfl

/-! ## Texts -/

section Items

variable {v : Value} {items : List Value}

theorem itemTexts?_cons_null (rest : List Value) :
    itemTexts? (.null :: rest) = (itemTexts? rest).map ("" :: ·) := rfl

/-- An element that is not null prints as it does by itself. -/
theorem itemTexts?_cons_of_ne (h : v ≠ .null) (rest : List Value) :
    itemTexts? (v :: rest) = v.text?.bind fun t => (itemTexts? rest).map (t :: ·) := by
  cases v with
  | null => exact absurd rfl h
  | _ => rfl

/-- An element without a text is found, however late it comes. -/
theorem itemTexts?_eq_none_of_mem (hmem : v ∈ items) (hnull : v ≠ .null) (h : v.text? = none) :
    itemTexts? items = none := by
  induction items with
  | nil => simp at hmem
  | cons w rest ih =>
    rcases List.mem_cons.1 hmem with rfl | hrest
    · rw [itemTexts?_cons_of_ne hnull, h, Option.bind_none]
    · by_cases hw : w = .null
      · rw [hw, itemTexts?_cons_null, ih hrest, Option.map_none]
      · simp [itemTexts?_cons_of_ne hw, ih hrest]

end Items

theorem HoldsMapping.ne_null {v : Value} (h : v.HoldsMapping) : v ≠ .null := by
  rintro rfl
  cases h

/-- **A mapping in a value leaves it without a text.** -/
theorem HoldsMapping.text?_eq_none {v : Value} (h : v.HoldsMapping) : v.text? = none := by
  induction h with
  | here entries => rfl
  | inside hmem h ih => rw [text?, itemTexts?_eq_none_of_mem hmem h.ne_null ih, Option.map_none]

mutual

/-- **Without a mapping in it a value prints as its leaves.** -/
theorem text?_of_not_holdsMapping :
    ∀ v : Value, v ≠ .null → ¬ v.HoldsMapping → v.text? = some v.joinedLeaves
  | .null, hnull, _ => absurd rfl hnull
  | .mapping entries, _, h => absurd (.here entries) h
  | .sequence items, _, h => by
    have hitems := itemTexts?_of_not_holdsMapping items fun v hv hmapping => h (.inside hv hmapping)
    rw [text?, hitems, joinedLeaves_sequence, Option.map_some]
  | .bool _, _, _ | .integer _, _, _ | .float _, _, _ | .string _, _, _ => by
    simp [text?, joinedLeaves, leaves, leafText]

/-- So do the elements of a sequence, a null among them included. -/
theorem itemTexts?_of_not_holdsMapping :
    ∀ items : List Value, (∀ v ∈ items, ¬ v.HoldsMapping) →
      itemTexts? items = some (items.map joinedLeaves)
  | [], _ => rfl
  | v :: rest, h => by
    have hrest := itemTexts?_of_not_holdsMapping rest fun w hw => h w (List.mem_cons_of_mem v hw)
    by_cases hnull : v = .null
    · subst hnull
      simp [itemTexts?_cons_null, hrest, joinedLeaves, leaves, leafText]
    · have hv := text?_of_not_holdsMapping v hnull (h v List.mem_cons_self)
      rw [itemTexts?_cons_of_ne hnull, hv, hrest]
      rfl

end

/-- **The text of a value is its leaves, joined with commas.**  A value has no text
exactly if it is null or a mapping is in it, at whatever depth of sequences, and
else its leaves, with what each of them prints as, are its text. -/
theorem text?_eq_some_iff_leaves (v : Value) :
    (v.text? = none ↔ v = .null ∨ v.HoldsMapping) ∧
    ∀ t, v.text? = some t ↔
      v ≠ .null ∧ ¬ v.HoldsMapping ∧ t = ",".intercalate (v.leaves.map leafText) := by
  by_cases hnull : v = .null
  · subst hnull
    simp [text?]
  by_cases hmapping : v.HoldsMapping
  · simp [hmapping.text?_eq_none, hmapping]
  · simp [text?_of_not_holdsMapping v hnull hmapping, hnull, hmapping, joinedLeaves, eq_comm]

/-- Nulls and empty sequences are leaves at every depth. -/
example : text? (.sequence [.string "a", .sequence [], .sequence [.null, .sequence [.bool true]],
    .null]) = some "a,,,true," := by decide +kernel

end Value

end BracketTemplate
