/-
# Reading patterns

`Node.ofText` reads a pattern from the left and stops at the first flaw.  What
is open at the end is complained about with the place where it was opened, the
innermost group first; how deep things are nested is looked at when all else is
well.

White space counts unless the flag `x` is set, for the rest of a group.
-/

import BracketTemplate.Pattern.Bracket
import BracketTemplate.Text.Letter

namespace BracketTemplate

namespace Pattern

namespace Reading

/-! ## Groups -/

/-- A sign in front of a colon or parenthesis: a flag, or else a negation. -/
structure FlagSign where
  flag? : Option Flag
  span : Span

/-- Reads a sign. -/
def flagSign : Reading FlagSign := do
  let span ← thisChar
  match ← here? with
  | some '-' => return ⟨none, span⟩
  | some c =>
    match Flag.ofChar? c with
    | some flag => return ⟨some flag, span⟩
    | none => refuse .flagUnknown span
  | none => refuse .flagsEnd span

/-- Reads signs up to a colon or parenthesis.  Each may occur once, and a
negation not at the end. -/
def flagSigns : (fuel : Nat) → List FlagSign → Reading (List FlagSign)
  | 0, signs => return signs
  | fuel + 1, signs => do
    match ← here? with
    | some ':' | some ')' =>
      match signs.getLast? with
      | some ⟨none, span⟩ => refuse .negationOfNothing span
      | _ => return signs
    | _ =>
      let sign ← flagSign
      match signs.find? (·.flag? = sign.flag?) with
      | some earlier =>
        refuse (if sign.flag?.isSome then .flagTwice earlier.span else .negationTwice earlier.span)
          sign.span
      | none =>
        advance
        if (← here?).isNone then refuse .flagsEnd (← nothing)
        flagSigns fuel (signs ++ [sign])

/-- The flags that signs set, and after a negation clear. -/
def flagsOf : (value : Bool) → List FlagSign → Flags
  | _, [] => []
  | value, ⟨some flag, _⟩ :: rest => (flag, value) :: flagsOf value rest
  | _, ⟨none, _⟩ :: rest => flagsOf false rest

/-- Whether a character occurs in the name of a group, at its start or later. -/
def isNameChar (atStart : Bool) (c : Char) : Bool :=
  c == '_' || Text.isAlphabetic c || !atStart && (c ∈ ['.', '[', ']'] || Text.isNumeric c)

/-- Reads the characters of a name up to its closing bracket. -/
def nameChars : (fuel : Nat) → (atStart : Bool) → Reading (List Char)
  | 0, _ => return []
  | fuel + 1, atStart => do
    match ← here? with
    | none => refuse .groupNameEnds (← nothing)
    | some '>' => return []
    | some c =>
      if isNameChar atStart c then
        advance
        return c :: (← nameChars fuel false)
      else refuse .groupNameInvalid (← thisChar)

/-- Reads the name of a group, which no earlier group has. -/
def groupName : Reading Unit := do
  let start ← place
  let name ← nameChars ((← size) + 1) true
  let span ← since start
  advance
  if name = [] then refuse .groupNameEmpty ⟨start, start⟩
  match (← get).names.find? (·.1 = name) with
  | some (_, earlier) => refuse (.groupNameTaken earlier) span
  | none => modify fun c => { c with names := c.names ++ [(name, span)] }

/-- How a group begins. -/
inductive GroupStart where
  /-- It is no group but flags for what follows. -/
  | flags (flags : Flags)
  | group (captures : Bool) (flags : Flags)

/-- Reads what says how a group looks around, which is not supported. -/
def refuseLookAround (start : Position) : Reading Unit := do
  for mark in [['?', '='], ['?', '!'], ['?', '<', '='], ['?', '<', '!']] do
    if ← eat mark then refuse .lookAround (← since start)

/-- Reads the start of a group, from its parenthesis. -/
def groupStart : Reading GroupStart := do
  let start ← place
  let parenthesis ← thisChar
  advancePastSpace
  refuseLookAround start
  let inner ← nothing
  if (← eat ['?', 'P', '<']) || (← eat ['?', '<']) then
    groupName
    return .group true []
  else if ← eat ['?'] then
    if (← here?).isNone then refuse .groupUnclosed parenthesis
    let signs ← flagSigns ((← size) + 1) []
    let isFlags := (← here?) = some ')'
    advance
    if !isFlags then return .group false (flagsOf true signs)
    else if signs.isEmpty then refuse .nothingToRepeat inner
    else return .flags (flagsOf true signs)
  else return .group true []

/-- Lets white space count or not, if some flags say so. -/
def setSpaced (flags : Flags) : Reading Unit :=
  match Flags.setting? flags .spaced with
  | some spaced => modify fun c => { c with spaced := spaced }
  | none => return

/-! ## Repetitions -/

/-- What is repeated: the last of some patterns, unless that is flags. -/
def operand (done : List Node) : Reading Node := do
  match done.getLast? with
  | some node => if node.isRepeatable then return node else refuse .nothingToRepeat (← nothing)
  | none => refuse .nothingToRepeat (← nothing)

/-- Goes past a question mark, which asks for few repetitions rather than many. -/
def skipPreference : Reading Unit := do
  if (← here?) = some '?' then advance

/-- Reads a repetition without a count, from its sign. -/
def uncounted (least : Nat) (most? : Option Nat) (done : List Node) : Reading Node := do
  let body ← operand done
  advance
  skipPreference
  return .repetition (← since body.span.start) least most? body

/-- The greatest count. -/
def maxCount : Nat := Nat.pow 2 32 - 1

/-- Goes past white space, whether it counts or not. -/
def skipBlank : (fuel : Nat) → Reading Unit
  | 0 => return
  | fuel + 1 => do
    if (← here?).any Text.isBlankChar then
      advance
      skipBlank fuel

/-- Reads a count with blanks around it. -/
def count : Reading (Except Complaint Nat) := do
  skipBlank (← size)
  let start ← place
  let digits ← takeWhile Decimal.isDigit (← size)
  let span ← since start
  skipBlank (← size)
  if digits = [] then return .error ⟨.countMissing, span⟩
  else
    let n := Decimal.ofDigits digits
    return if n ≤ maxCount then .ok n else .error ⟨.countTooLarge, span⟩

/-- Reads a repetition with counts, from its brace. -/
def counted (done : List Node) : Reading Node := do
  let start ← place
  let body ← operand done
  let inside := advanceInside .countUnclosed fun stop => ⟨start, stop⟩
  inside
  let least ← count
  let isRange := (← here?) = some ','
  if (← here?).isNone then refuse .countUnclosed (← since start)
  if isRange then inside
  let least ← liftExcept least
  let most? ←
    if !isRange then pure (some least)
    else if (← here?) = some '\x7d' then pure none
    else do pure (some (← liftExcept (← count)))
  if (← here?) ≠ some '\x7d' then refuse .countUnclosed (← since start)
  advancePastSpace
  skipPreference
  if most?.any (· < least) then refuse .countsReversed (← since start)
  return .repetition (← since body.span.start) least most? body
where
  liftExcept (r : Except Complaint Nat) : Reading Nat :=
    match r with
    | .ok n => return n
    | .error c => throw c

/-! ## Patterns -/

mutual

/-- Reads branches up to the end or a closing parenthesis. -/
def branches : (fuel : Nat) → Reading (List Node)
  | 0 => return []
  | fuel + 1 => do
    let start ← place
    let done ← items fuel []
    let branch := Node.ofItems (← since start) done
    if (← here?) = some '|' then
      advance
      return branch :: (← branches fuel)
    else return [branch]

/-- Reads patterns one after another, after those that are done, up to the end of
a branch. -/
def items : (fuel : Nat) → (done : List Node) → Reading (List Node)
  | 0, done => return done
  | fuel + 1, done => do
    skip
    match ← here? with
    | none | some ')' | some '|' => return done
    | some '(' => do items fuel (done ++ [← group fuel])
    | some '[' => do
      let (span, negated, body) ← Bracket.read (2 * (← size))
      items fuel (done ++ [.bracketed span negated body])
    | some '?' => do items fuel (done.dropLast ++ [← uncounted 0 (some 1) done])
    | some '*' => do items fuel (done.dropLast ++ [← uncounted 0 none done])
    | some '+' => do items fuel (done.dropLast ++ [← uncounted 1 none done])
    | some '\x7b' => do items fuel (done.dropLast ++ [← counted done])
    | some '\\' => do items fuel (done ++ [← Escape.read])
    | some c => do
      let span ← thisChar
      advance
      let node : Node :=
        match c with
        | '.' => .dot span
        | '^' => .assertion span .lineStart
        | '$' => .assertion span .lineEnd
        | _ => .literal ⟨span, c, false⟩
      items fuel (done ++ [node])

/-- Reads a group, or flags for what follows, from the parenthesis. -/
def group : (fuel : Nat) → Reading Node
  | 0 => return .empty (← nothing)
  | fuel + 1 => do
    let start ← place
    let parenthesis ← thisChar
    let spaced := (← get).spaced
    match ← groupStart with
    | .flags flags =>
      setSpaced flags
      return .flags (← since start) flags
    | .group captures flags =>
      setSpaced flags
      let first ← place
      let inner ← branches fuel
      let body := Node.ofBranches (← since first) inner
      if (← here?).isNone then refuse .groupUnclosed parenthesis
      advance
      modify fun c => { c with spaced := spaced }
      return .group (← since start) captures flags body

end

/-- Reads a whole pattern. -/
def whole : Reading Node := do
  let start ← place
  let inner ← branches (3 * (← size) + 3)
  if (← here?).isSome then refuse .groupUnopened (← thisChar)
  let node := Node.ofBranches (← since start) inner
  match node.tooDeep? maxDepth with
  | some span => refuse .tooDeep span
  | none => return node

end Reading

/-- The pattern that a text is. -/
def Node.ofText (text : List Char) : Except Complaint Node :=
  (Reading.whole.run (Cursor.start text)).map (·.1)

end Pattern

end BracketTemplate
