/-
# Entries in name order

`Entries.insert` keeps entries in the order of their names, with each name once
(`InOrder.insert`), so that everything made by it is (`inOrder_ofList`).  Two lists in
name order are the same if they have the same entries (`InOrder.ext`): order tells
nothing about such a list, and neither does the order in which entries were stored
(`insert_comm`).
-/

import BracketTemplate.Entries
import Mathlib

namespace BracketTemplate

namespace Entries

universe u v

variable {α : Type u}

/-- What is stored under a name is what the library finds under it. -/
theorem find?_eq_lookup (name : String) (entries : Entries α) :
    find? name entries = entries.lookup name := by
  induction entries with
  | nil => rfl
  | cons e rest ih =>
    obtain ⟨other, a⟩ := e
    rw [find?, List.lookup_cons, ih]
    by_cases h : other = name
    · simp [h]
    · have hne : (name == other) = false := beq_false_of_ne fun heq => h heq.symm
      simp only [if_neg h, hne]

theorem lookup_map {β : Type v} (f : α → β) (name : String) (entries : Entries α) :
    (entries.map fun e => (e.1, f e.2)).lookup name = (entries.lookup name).map f := by
  rw [← find?_eq_lookup, ← find?_eq_lookup, find?_map]

/-! ## Storing -/

/-- An entry goes in front of the first one if its name does. -/
theorem insert_cons_of_lt {x other : String} (h : x < other) (a b : α) (rest : Entries α) :
    insert x a ((other, b) :: rest) = (x, a) :: (other, b) :: rest := by
  have hne : other ≠ x := fun heq => String.lt_irrefl x (heq ▸ h)
  rw [insert, if_neg hne, if_pos h]

/-- Else it is stored among the others. -/
theorem insert_cons_of_gt {x other : String} (h : other < x) (a b : α) (rest : Entries α) :
    insert x a ((other, b) :: rest) = (other, b) :: insert x a rest := by
  have hne : other ≠ x := fun heq => String.lt_irrefl x (heq ▸ h)
  rw [insert, if_neg hne, if_neg (String.lt_asymm h)]

/-- It takes the place of an entry with the same name. -/
theorem insert_cons_self (x : String) (a b : α) (rest : Entries α) :
    insert x a ((x, b) :: rest) = (x, a) :: rest := by
  rw [insert, if_pos rfl]

/-- Of two names one comes first. -/
theorem lt_or_lt_of_ne {x y : String} (h : x ≠ y) : x < y ∨ y < x := by
  by_contra hn
  obtain ⟨hxy, hyx⟩ := not_or.1 hn
  exact h (String.le_antisymm (String.not_lt.1 hyx) (String.not_lt.1 hxy))

theorem insert_comm_of_lt {x y : String} (h : x < y) (a b : α) (entries : Entries α) :
    insert x a (insert y b entries) = insert y b (insert x a entries) := by
  induction entries with
  | nil =>
    change insert x a ((y, b) :: []) = insert y b ((x, a) :: [])
    rw [insert_cons_of_lt h, insert_cons_of_gt h]
    rfl
  | cons entry rest ih =>
    obtain ⟨other, c⟩ := entry
    by_cases hx : other = x
    · subst hx
      rw [insert_cons_self, insert_cons_of_gt h, insert_cons_of_gt h, insert_cons_self]
    · rcases lt_or_lt_of_ne hx with hlt | hlt
      · rw [insert_cons_of_gt hlt, insert_cons_of_gt (String.lt_trans hlt h),
          insert_cons_of_gt (String.lt_trans hlt h), insert_cons_of_gt hlt, ih]
      · rw [insert_cons_of_lt hlt, insert_cons_of_gt h]
        -- what is first after `y` has been stored is still behind `x`
        by_cases hy : other = y
        · subst hy
          rw [insert_cons_self, insert_cons_of_lt h]
        · rcases lt_or_lt_of_ne hy with hoy | hoy
          · rw [insert_cons_of_gt hoy, insert_cons_of_lt hlt]
          · rw [insert_cons_of_lt hoy, insert_cons_of_lt h]

/-- **Entries with two names can be stored in either order.** -/
theorem insert_comm {x y : String} (h : x ≠ y) (a b : α) (entries : Entries α) :
    insert x a (insert y b entries) = insert y b (insert x a entries) := by
  rcases lt_or_lt_of_ne h with hlt | hlt
  · exact insert_comm_of_lt hlt a b entries
  · exact (insert_comm_of_lt hlt b a entries).symm

/-! ## Order -/

/-- Whether the names of some entries increase, so that each is there once. -/
def InOrder (entries : Entries α) : Prop := entries.Pairwise fun e f => e.1 < f.1

variable {entries others : Entries α} {name : String} {a : α}

theorem inOrder_nil : InOrder ([] : Entries α) := List.Pairwise.nil

theorem inOrder_cons {e : String × α} :
    InOrder (e :: entries) ↔ (∀ f ∈ entries, e.1 < f.1) ∧ InOrder entries :=
  List.pairwise_cons

theorem InOrder.map {β : Type v} (h : InOrder entries) (f : α → β) :
    InOrder (entries.map fun e => (e.1, f e.2)) :=
  List.pairwise_map.2 h

/-- What is stored is there, and nothing else is new. -/
theorem mem_insert {e : String × α} (h : e ∈ insert name a entries) :
    e = (name, a) ∨ e ∈ entries := by
  induction entries with
  | nil => exact .inl (List.mem_singleton.1 h)
  | cons entry rest ih =>
    rw [insert] at h
    split at h
    · rcases List.mem_cons.1 h with rfl | h
      · exact .inl rfl
      · exact .inr (List.mem_cons_of_mem entry h)
    · split at h
      · rcases List.mem_cons.1 h with rfl | h
        · exact .inl rfl
        · exact .inr h
      · rcases List.mem_cons.1 h with rfl | h
        · exact .inr List.mem_cons_self
        · exact (ih h).imp_right (List.mem_cons_of_mem entry)

/-- **What is stored goes to its place.** -/
theorem InOrder.insert (h : InOrder entries) (name : String) (a : α) :
    InOrder (insert name a entries) := by
  induction entries with
  | nil => exact inOrder_cons.2 ⟨by simp, inOrder_nil⟩
  | cons entry rest ih =>
    obtain ⟨other, b⟩ := entry
    obtain ⟨hlt, hrest⟩ := inOrder_cons.1 h
    by_cases heq : other = name
    · subst heq
      rw [insert_cons_self]
      exact inOrder_cons.2 ⟨hlt, hrest⟩
    · rcases lt_or_lt_of_ne heq with hbehind | hfront
      · rw [insert_cons_of_gt hbehind]
        refine inOrder_cons.2 ⟨fun e he => ?_, ih hrest⟩
        rcases mem_insert he with rfl | he
        · exact hbehind
        · exact hlt e he
      · rw [insert_cons_of_lt hfront]
        refine inOrder_cons.2 ⟨fun e he => ?_, h⟩
        rcases List.mem_cons.1 he with rfl | he
        · exact hfront
        · exact String.lt_trans hfront (hlt e he)

theorem ofList_concat (pairs : List (String × α)) (pair : String × α) :
    ofList (pairs ++ [pair]) = insert pair.1 pair.2 (ofList pairs) := by
  simp [ofList]

/-- The entries of a list are in order, whatever the order of the list. -/
theorem inOrder_ofList (pairs : List (String × α)) : InOrder (ofList pairs) := by
  induction pairs using List.reverseRecOn with
  | nil => exact inOrder_nil
  | append_singleton pairs pair ih =>
    rw [ofList_concat]
    exact ih.insert pair.1 pair.2

/-- All of them are from the list. -/
theorem mem_of_mem_ofList {pairs : List (String × α)} {e : String × α} (h : e ∈ ofList pairs) :
    e ∈ pairs := by
  induction pairs using List.reverseRecOn with
  | nil => exact absurd h List.not_mem_nil
  | append_singleton pairs pair ih =>
    rw [ofList_concat] at h
    rcases mem_insert h with rfl | h
    · simp
    · exact List.mem_append_left _ (ih h)

/-- **Entries in order are determined by what is among them.** -/
theorem InOrder.ext (h : InOrder entries) (hothers : InOrder others)
    (hmem : ∀ e, e ∈ entries ↔ e ∈ others) : entries = others := by
  have : Std.Irrefl fun e f : String × α => e.1 < f.1 := ⟨fun e => String.lt_irrefl e.1⟩
  have : Std.Antisymm fun e f : String × α => e.1 < f.1 :=
    ⟨fun e f hef hfe => absurd hfe (String.lt_asymm hef)⟩
  exact List.Pairwise.eq_of_mem_iff h hothers hmem

end Entries

end BracketTemplate
