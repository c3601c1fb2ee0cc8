/-
# Expressions and where they occur

What a pattern means once its flags are carried out: an expression over sets of
characters.  `occursIn` asks whether some piece of a text is of the form that it
describes.

All places of the text are followed at once.  `Marks` has an entry for every
place, both ends included, and `step` goes from the places where a piece may
begin to those where it may end.  Steps only go forward, so `n` characters need
no more than `n` of them that move; after `n + 1` repetitions the marks no
longer change, and `n` are enough to find all that any number of them reaches.
-/

namespace BracketTemplate

namespace Pattern

/-- A set of characters. -/
abbrev CharSet := Char → Bool

/-- What is asked of a place between two characters. -/
inductive Look where
  | textStart
  | textEnd
  | lineStart
  | lineEnd
  /-- Lines end with a carriage return, a newline, or both. -/
  | anyLineStart
  | anyLineEnd
  | boundary
  | noBoundary
  | wordStart
  | wordEnd
  | wordStartHalf
  | wordEndHalf
  /-- It has to do with words of any script, and holds nowhere as nothing is
  known of those. -/
  | anyScript
  deriving DecidableEq, Repr, Inhabited

/-- What a pattern means. -/
inductive Expr where
  | empty
  | char (set : CharSet)
  | look (l : Look)
  | sequence (items : List Expr)
  | choice (branches : List Expr)
  | repeated (least : Nat) (most? : Option Nat) (body : Expr)
  deriving Inhabited

/-- Whether a character is part of a word. -/
def isWordChar (c : Char) : Bool := c.isAlphanum || c == '_'

/-- Whether a place is as asked, by the characters before and after it. -/
def Look.holds (l : Look) (before? after? : Option Char) : Bool :=
  let inWord := before?.any isWordChar
  let word := after?.any isWordChar
  match l with
  | .textStart => before?.isNone
  | .textEnd => after?.isNone
  | .lineStart => before?.isNone || before? == some '\n'
  | .lineEnd => after?.isNone || after? == some '\n'
  | .anyLineStart =>
    before?.isNone || before? == some '\n' || before? == some '\r' && after? != some '\n'
  | .anyLineEnd =>
    after?.isNone || after? == some '\r' || after? == some '\n' && before? != some '\r'
  | .boundary => inWord != word
  | .noBoundary => inWord == word
  | .wordStart => !inWord && word
  | .wordEnd => inWord && !word
  | .wordStartHalf => !inWord
  | .wordEndHalf => !word
  | .anyScript => false

/-- For each place of a text, whether it is reached. -/
abbrev Marks := List Bool

namespace Marks

/-- The characters around each place of a text, of which the first comes after
`before?`. -/
def around : (before? : Option Char) → List Char → List (Option Char × Option Char)
  | before?, [] => [(before?, none)]
  | before?, c :: rest => (before?, some c) :: around (some c) rest

/-- The places after a character of a set. -/
def past (set : CharSet) (text : List Char) (marks : Marks) : Marks :=
  false :: List.zipWith (fun reached c => reached && set c) marks text

/-- The places that are as asked. -/
def looking (l : Look) (text : List Char) (marks : Marks) : Marks :=
  List.zipWith (fun reached (before?, after?) => reached && l.holds before? after?) marks
    (around none text)

/-- The places of either. -/
def union (a b : Marks) : Marks := List.zipWith (· || ·) a b

/-- What a number of steps reach; no more are made when nothing changes. -/
def iterate (step : Marks → Marks) : Nat → Marks → Marks
  | 0, marks => marks
  | n + 1, marks =>
    let next := step marks
    if next = marks then marks else iterate step n next

/-- What at most a number of steps reach. -/
def closure (step : Marks → Marks) (n : Nat) (marks : Marks) : Marks :=
  iterate (fun marks => union marks (step marks)) n marks

theorem length_around (before? : Option Char) (text : List Char) :
    (around before? text).length = text.length + 1 := by
  induction text generalizing before? with
  | nil => rfl
  | cons c rest ih => simp [around, ih]

/-- Steps that keep the number of places keep it when they are repeated. -/
theorem length_iterate {step : Marks → Marks} {k : Nat}
    (h : ∀ marks : Marks, marks.length = k → (step marks).length = k) (n : Nat) (marks : Marks)
    (hk : marks.length = k) : (iterate step n marks).length = k := by
  induction n generalizing marks with
  | zero => exact hk
  | succ n ih =>
    simp only [iterate]
    split
    · exact hk
    · exact ih _ (h marks hk)

theorem length_closure {step : Marks → Marks} {k : Nat}
    (h : ∀ marks : Marks, marks.length = k → (step marks).length = k) (n : Nat) (marks : Marks)
    (hk : marks.length = k) : (closure step n marks).length = k :=
  length_iterate (fun m hm => by simp [union, hm, h m hm]) n marks hk

end Marks

namespace Expr

mutual

/-- The places where a piece may end that begins at one of some places. -/
def step (text : List Char) : Expr → Marks → Marks
  | .empty, marks => marks
  | .char set, marks => marks.past set text
  | .look l, marks => marks.looking l text
  | .sequence items, marks => stepAll text items marks
  | .choice branches, marks => stepAny text branches marks
  | .repeated least most? body, marks =>
    let n := text.length
    let more :=
      match most? with
      | some most => min (most - least) n
      | none => n
    Marks.closure (step text body) more
      (Marks.iterate (step text body) (min least (n + 1)) marks)

/-- The places where pieces one after another may end. -/
def stepAll (text : List Char) : List Expr → Marks → Marks
  | [], marks => marks
  | e :: rest, marks => stepAll text rest (step text e marks)

/-- The places where a piece of one of some forms may end. -/
def stepAny (text : List Char) : List Expr → Marks → Marks
  | [], marks => marks.map fun _ => false
  | e :: rest, marks => (step text e marks).union (stepAny text rest marks)

end

mutual

/-- There is an entry for every place of the text after a step as before it. -/
theorem length_step (text : List Char) (e : Expr) (marks : Marks)
    (h : marks.length = text.length + 1) : (step text e marks).length = text.length + 1 := by
  cases e with
  | empty => simpa [step] using h
  | char set => simp [step, Marks.past, h]
  | look l => simp [step, Marks.looking, Marks.length_around, h]
  | sequence items => simpa [step] using length_stepAll text items marks h
  | choice branches => simpa [step] using length_stepAny text branches marks h
  | repeated least most? body =>
    have hbody := length_step text body
    simpa [step] using
      Marks.length_closure hbody _ _ (Marks.length_iterate hbody _ marks h)

theorem length_stepAll (text : List Char) (items : List Expr) (marks : Marks)
    (h : marks.length = text.length + 1) : (stepAll text items marks).length = text.length + 1 := by
  match items with
  | [] => simpa [stepAll] using h
  | e :: rest =>
    simpa [stepAll] using length_stepAll text rest _ (length_step text e marks h)

theorem length_stepAny (text : List Char) (branches : List Expr) (marks : Marks)
    (h : marks.length = text.length + 1) :
    (stepAny text branches marks).length = text.length + 1 := by
  match branches with
  | [] => simpa [stepAny] using h
  | e :: rest =>
    simp [stepAny, Marks.union, length_step text e marks h, length_stepAny text rest marks h]

end

/-- Whether a piece of a text is as the expression describes. -/
def occursIn (e : Expr) (text : List Char) : Bool :=
  (step text e (List.replicate (text.length + 1) true)).contains true

mutual

/-- Whether it has to be known which words there are in any script. -/
def asksAnyScript : Expr → Bool
  | .empty | .char _ => false
  | .look l => l == .anyScript
  | .sequence items => anyAsksAnyScript items
  | .choice branches => anyAsksAnyScript branches
  | .repeated _ _ body => asksAnyScript body

/-- Whether that has to be known for one of some expressions. -/
def anyAsksAnyScript : List Expr → Bool
  | [] => false
  | e :: rest => asksAnyScript e || anyAsksAnyScript rest

end

end Expr

end Pattern

end BracketTemplate
