/-
# What reading a variable comes to

A name is read in three steps, each of which can fail in one way: it must be a
dotted name, the context must hold a value for it, and the value must be of the
kind that is wanted, a sequence for a loop and one with a text for printing.
Each step is turned around here, for success and for failure.
-/

import BracketTemplate.Proofs.Turns

namespace BracketTemplate

variable {ε α β : Type}

/-- A sequence fails if a part does. -/
theorem bind_eq_error {x : Except ε α} {f : α → Except ε β} {e : ε} :
    (x >>= f) = .error e ↔ x = .error e ∨ ∃ a, x = .ok a ∧ f a = .error e := by
  cases x with
  | error e' => simp [Bind.bind, Except.bind]
  | ok a => simp [Bind.bind, Except.bind]

namespace Directive

/-- A required argument is one that the directive has. -/
theorem requiredArgument_eq_ok {d : Directive} {i : Nat} {argument : String} :
    d.requiredArgument i = .ok argument ↔ d.argument? i = some argument := by
  unfold requiredArgument
  cases d.argument? i with
  | none => simp
  | some a => simp

/-- It is missed where the directive has none. -/
theorem requiredArgument_eq_error {d : Directive} {i : Nat} {e : RenderError} :
    d.requiredArgument i = .error e ↔
      d.argument? i = none ∧ e = .missingArgument d.keyword d.line := by
  unfold requiredArgument
  cases d.argument? i with
  | none => simp [eq_comm]
  | some a => simp

/-- An argument is absent if there is no segment for it or an empty one. -/
theorem argument?_eq_none {d : Directive} {i : Nat} :
    d.argument? i = none ↔ d.args[i]? = none ∨ d.args[i]? = some "" := by
  unfold argument?
  cases d.args[i]? with
  | none => simp
  | some a => simp [Option.filter_eq_none_iff]

/-- An argument that is there is one of the segments. -/
theorem mem_args_of_argument? {d : Directive} {i : Nat} {argument : String}
    (h : d.argument? i = some argument) : argument ∈ d.args :=
  List.mem_of_getElem? (Option.filter_eq_some_iff.1 h).1

end Directive

namespace Value

/-- Only a sequence has items. -/
theorem items?_eq_some {v : Value} {items : List Value} :
    v.items? = some items ↔ v = .sequence items := by
  cases v <;> simp [items?]

end Value

namespace Variable

variable {context : Context} {name : String} {line : Nat}

/-- What is read is what the context holds. -/
theorem read_eq_ok {value : Value} :
    read context name = .ok value ↔
      isDottedName name = true ∧ context.lookup? name = some value := by
  unfold read
  split
  · rename_i h
    split
    · rename_i v hv
      simp [h, hv]
    · rename_i hv
      simp [h, hv]
  · rename_i h
    simp [h]

/-- A name is not read if it is illegal or the context holds nothing for it. -/
theorem read_eq_error {e : RenderError} :
    read context name = .error e ↔
      (isDottedName name = false ∧ e = .illegalVariableName name) ∨
        (isDottedName name = true ∧ context.lookup? name = none ∧
          e = .undefinedVariable name) := by
  unfold read
  split
  · rename_i h
    split
    · rename_i v hv
      simp [h, hv]
    · rename_i hv
      simp [h, hv, eq_comm]
  · rename_i h
    simp [h, eq_comm]

/-- The items that are read are those of a sequence that the context holds. -/
theorem readItems_eq_ok {items : List Value} :
    readItems context name line = .ok items ↔
      read context name = .ok (.sequence items) := by
  unfold readItems
  rw [bind_eq_ok]
  constructor
  · rintro ⟨value, hvalue, h⟩
    cases hitems : value.items? with
    | none => rw [hitems] at h; cases h
    | some items' =>
      rw [hitems] at h
      obtain rfl : items' = items := Except.ok.inj h
      rw [hvalue, Value.items?_eq_some.1 hitems]
  · intro h
    exact ⟨_, h, rfl⟩

/-- No items are read if the name is not, or its value is no sequence. -/
theorem readItems_eq_error {e : RenderError} :
    readItems context name line = .error e ↔
      read context name = .error e ∨
        ∃ value, read context name = .ok value ∧ value.items? = none ∧
          e = .notASequence name line := by
  unfold readItems
  rw [bind_eq_error]
  refine or_congr_right (exists_congr fun value => and_congr_right fun _ => ?_)
  cases value.items? with
  | none => simp [eq_comm]
  | some items => simp

/-- Nothing is printed if the name is not read, or its value has no text. -/
theorem print_eq_error {e : RenderError} :
    print context name = .error e ↔
      read context name = .error e ∨
        ∃ value, read context name = .ok value ∧ value.text? = none ∧
          e = .unprintableValue name := by
  unfold print
  rw [bind_eq_error]
  refine or_congr_right (exists_congr fun value => and_congr_right fun _ => ?_)
  cases value.text? with
  | none => simp [eq_comm]
  | some text => simp

/-- The items of a loop are those of the sequence that it names. -/
theorem lookup?_of_loopHeader {directives : List Directive} {d : Directive} {index k : Nat}
    {binding? : Option String} {items : List Value}
    (h : Machine.loopHeader directives d index context = .ok (binding?, k, items)) :
    ∃ name, d.argument? 0 = some name ∧ context.lookup? name = some (.sequence items) := by
  obtain ⟨name, hname, -, -, hitems⟩ := Machine.loopHeader_eq_ok.1 h
  obtain ⟨-, hlookup⟩ := read_eq_ok.1 (readItems_eq_ok.1 hitems)
  exact ⟨name, Directive.requiredArgument_eq_ok.1 hname, hlookup⟩

/-- A name for a binding is taken as it is, or refused. -/
theorem bindingName_eq_ok {name' : String} :
    bindingName name = .ok name' ↔ isBindingName name = true ∧ name' = name := by
  unfold bindingName
  split
  · rename_i h
    simp [h, eq_comm]
  · rename_i h
    simp [h]

theorem bindingName_eq_error {e : RenderError} :
    bindingName name = .error e ↔
      isBindingName name = false ∧ e = .illegalVariableName name := by
  unfold bindingName
  split
  · rename_i h
    simp [h]
  · rename_i h
    simp [h, eq_comm]

/-- The name that a loop binds is the one that its directive gives. -/
theorem mapM_bindingName_eq_ok {name? binding? : Option String}
    (h : name?.mapM bindingName = .ok binding?) : binding? = name? := by
  cases name? with
  | none => exact (Except.ok.inj h).symm
  | some name =>
    simp only [Option.mapM_some] at h
    cases hname : bindingName name with
    | error e => rw [hname] at h; cases h
    | ok name' =>
      rw [hname] at h
      rw [← Except.ok.inj h, (bindingName_eq_ok.1 hname).2]

/-- A loop is refused for the name that it binds only if that is illegal. -/
theorem mapM_bindingName_eq_error {name? : Option String} {e : RenderError}
    (h : name?.mapM bindingName = .error e) :
    ∃ name, name? = some name ∧ isBindingName name = false ∧ e = .illegalVariableName name := by
  cases name? with
  | none => cases h
  | some name =>
    simp only [Option.mapM_some] at h
    cases hname : bindingName name with
    | ok name' => rw [hname] at h; cases h
    | error e' =>
      rw [hname] at h
      obtain rfl : e' = e := Except.error.inj h
      exact ⟨name, rfl, bindingName_eq_error.1 hname⟩

end Variable

end BracketTemplate
