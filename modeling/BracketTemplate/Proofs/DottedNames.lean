/-
# Dotted names

A dotted name is the same as its segments: they are the one list of texts without
dots, not empty, that gives the name when it is joined with dots
(`segments_eq_iff`).

| name | segments |
| --- | --- |
| `a` | `a` |
| `a.b` | `a`, `b` |
| `.a..` | one that is empty, `a`, two that are empty |
| the empty name | one that is empty |

So a look-up goes to the first segment and takes one step for each further one
(`lookup?_append`), and what is stored under a name is seen by the look-ups that
start with it (`lookup?_set_of_head?`), and by no other (`lookup?_set_of_head?_ne`).
A name with a dot is no segment: what is stored under it can be got, but no look-up
starts there.
-/

import BracketTemplate.Context
import BracketTemplate.Text.Fields
import Mathlib

namespace BracketTemplate

/-- A walk is one step after another. -/
theorem Value.walk?_eq_foldlM (v : Value) (ss : List String) :
    v.walk? ss = ss.foldlM Value.child? v := by
  induction ss generalizing v with
  | nil => simp
  | cons s rest ih =>
    rw [Value.walk?, List.foldlM_cons]
    exact congrArg _ (funext ih)

namespace Context

/-! ## Segments -/

section Segments

variable {path p q s : String} {ss : List String}

theorem segments_ne_nil (path : String) : segments path ≠ [] := by
  simp [segments, List.splitOn_ne_nil]

theorem not_mem_of_mem_segments (h : s ∈ segments path) : '.' ∉ s.toList := by
  obtain ⟨cs, hcs, rfl⟩ := List.mem_map.1 h
  rw [String.toList_ofList]
  exact fun hdot => (mem_and_ne_of_mem_splitOn hcs hdot).2 rfl

theorem intercalate_segments (path : String) : ".".intercalate (segments path) = path := by
  have hcs : ['.'].intercalate (path.toList.splitOn '.') = path.toList :=
    List.intercalate_splitOn '.'
  have hmap : (segments path).map String.toList = path.toList.splitOn '.' := by
    simp [segments, Function.comp_def]
  rw [← String.toList_inj, String.toList_intercalate, hmap]
  exact hcs

/-- **The segments of a name are the texts without dots that give it when they are
joined with dots.** -/
theorem segments_eq_iff : segments path = ss ↔
    ss ≠ [] ∧ (∀ s ∈ ss, '.' ∉ s.toList) ∧ ".".intercalate ss = path := by
  constructor
  · rintro rfl
    exact ⟨segments_ne_nil path, fun s => not_mem_of_mem_segments, intercalate_segments path⟩
  · rintro ⟨hne, hdots, rfl⟩
    have hpieces : ∀ cs ∈ ss.map String.toList, '.' ∉ cs := by simpa using hdots
    have hsplit : (['.'].intercalate (ss.map String.toList)).splitOn '.' = ss.map String.toList :=
      List.splitOn_intercalate '.' hpieces (by simpa using hne)
    rw [segments, String.toList_intercalate]
    change ((['.'].intercalate (ss.map String.toList)).splitOn '.').map String.ofList = ss
    rw [hsplit, List.map_map]
    simp [Function.comp_def]

/-- The segments of two names with a dot between them are those of the one and the
other. -/
theorem segments_append (p q : String) : segments (p ++ "." ++ q) = segments p ++ segments q := by
  refine segments_eq_iff.2 ⟨?_, fun s hs => ?_, ?_⟩
  · exact List.append_ne_nil_of_left_ne_nil (segments_ne_nil p) _
  · rcases List.mem_append.1 hs with hs | hs <;> exact not_mem_of_mem_segments hs
  · rw [String.intercalate_append_of_ne_nil (segments_ne_nil p) (segments_ne_nil q),
      intercalate_segments, intercalate_segments]

end Segments

/-! ## Look-ups -/

variable {c c' : Context} {x path : String}

theorem lookup?_of_segments {first : String} {rest : List String}
    (h : segments path = first :: rest) (c : Context) :
    c.lookup? path = (c.get? first).bind (·.walk? rest) := by
  simp only [lookup?, h]

/-- What a dotted name reaches depends on its first segment only. -/
theorem lookup?_congr (hx : (segments path).head? = some x) (h : c'.get? x = c.get? x) :
    c'.lookup? path = c.lookup? path := by
  obtain ⟨rest, hrest⟩ := List.head?_eq_some_iff.1 hx
  rw [lookup?_of_segments hrest, lookup?_of_segments hrest, h]

/-- A dotted name reaches the same after a variable has been set, if it starts
with another one. -/
theorem lookup?_set_of_head?_ne {x path : String} (h : (segments path).head? ≠ some x)
    (context : Context) (v : Value) : (context.set x v).lookup? path = context.lookup? path := by
  obtain ⟨first, rest, hsegments⟩ := List.exists_cons_of_ne_nil (segments_ne_nil path)
  have hne : x ≠ first := fun heq => h (by rw [hsegments, heq]; rfl)
  exact lookup?_congr (by rw [hsegments]; rfl) (get?_set_of_ne hne context v)

/-- A dotted name that starts with a variable that has been set reaches into its
new value. -/
theorem lookup?_set_of_head? (h : (segments path).head? = some x) (v : Value) :
    (c.set x v).lookup? path = v.walk? (segments path).tail := by
  obtain ⟨rest, hrest⟩ := List.head?_eq_some_iff.1 h
  rw [lookup?_of_segments hrest, get?_set_self, hrest]
  rfl

/-- Nothing that is looked up starts with a name that has a dot. -/
theorem head?_segments_ne_of_mem (h : '.' ∈ x.toList) (path : String) :
    (segments path).head? ≠ some x := fun hx =>
  not_mem_of_mem_segments (List.mem_of_head? hx) h

/-- **A look-up goes on from what its beginning reaches.** -/
theorem lookup?_append (c : Context) (p q : String) :
    c.lookup? (p ++ "." ++ q) = (c.lookup? p).bind (·.walk? (segments q)) := by
  obtain ⟨first, rest, hp⟩ := List.exists_cons_of_ne_nil (segments_ne_nil p)
  have hpq : segments (p ++ "." ++ q) = first :: (rest ++ segments q) := by
    rw [segments_append, hp, List.cons_append]
  rw [lookup?_of_segments hpq, lookup?_of_segments hp, Option.bind_assoc]
  simp only [Value.walk?_append]

/-- **Look-ups compose, and see what is set.**  What a name with a dot in it reaches
is found from what is in front of the dot by taking one step for each segment behind
it.  After a variable has been set, the names of which it is the first segment reach
into its value and all others reach what they reached before; so a variable whose name
has a dot is seen by no look-up, though it is there. -/
theorem lookup?_append_and_set (c : Context) :
    (∀ p q, c.lookup? (p ++ "." ++ q) =
      (c.lookup? p).bind fun v => (segments q).foldlM Value.child? v) ∧
    (∀ x v p, (c.set x v).lookup? p =
      if (segments p).head? = some x then (segments p).tail.foldlM Value.child? v
      else c.lookup? p) ∧
    ∀ x v, '.' ∈ x.toList →
      (∀ p, (c.set x v).lookup? p = c.lookup? p) ∧ (c.set x v).get? x = some v := by
  refine ⟨fun p q => ?_, fun x v p => ?_, fun x v hx => ⟨fun p => ?_, get?_set_self c x v⟩⟩
  · rw [lookup?_append]
    simp only [Value.walk?_eq_foldlM]
  · split
    · rename_i hhead
      rw [lookup?_set_of_head? hhead, Value.walk?_eq_foldlM]
    · rename_i hhead
      exact lookup?_set_of_head?_ne hhead c v
  · exact lookup?_set_of_head?_ne (head?_segments_ne_of_mem hx p) c v

/-- A variable with a dotted name beside one that the name leads into. -/
theorem lookup?_append_and_set_beside :
    let c := Context.ofPairs [("a", .mapping [("", .sequence [.integer 7])])]
    '.' ∈ "a..0".toList ∧ (c.set "a..0" .null).lookup? "a..0" = some (.integer 7) ∧
      (c.set "a..0" .null).get? "a..0" = some .null ∧
      (c.set "a" (.sequence [.bool true])).lookup? "a.+0" = some (.bool true) := by
  intro c
  have hdot : '.' ∈ "a..0".toList := by decide
  obtain ⟨happend, hset, hdotted⟩ := lookup?_append_and_set c
  obtain ⟨hunseen, hget⟩ := hdotted "a..0" .null hdot
  refine ⟨hdot, ?_, hget, ?_⟩
  · rw [hunseen]
    exact (happend "a." "0").trans rfl
  · rw [hset, if_pos (by decide)]
    rfl

end Context

end BracketTemplate
