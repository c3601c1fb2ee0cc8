/-
# Blank characters

The characters with the Unicode property `White_Space`: 25 code points, among
them the six of ASCII.  A text is blank when it has no other character; the
empty text is blank.
-/

namespace BracketTemplate

namespace Text

/-- The code points with the property `White_Space`, as inclusive ranges. -/
def blankRanges : List (Nat × Nat) :=
  [(0x09, 0x0D), (0x20, 0x20), (0x85, 0x85), (0xA0, 0xA0), (0x1680, 0x1680), (0x2000, 0x200A),
    (0x2028, 0x2029), (0x202F, 0x202F), (0x205F, 0x205F), (0x3000, 0x3000)]

/-- Whether a character is white space. -/
def isBlankChar (c : Char) : Bool :=
  blankRanges.any fun (first, last) => first ≤ c.toNat && c.toNat ≤ last

/-- Whether a text has white space only. -/
def isBlank (text : List Char) : Bool := text.all isBlankChar

/-- The table has 25 code points. -/
example : (blankRanges.map fun (first, last) => last + 1 - first).sum = 25 := by decide

@[simp] theorem isBlank_nil : isBlank [] = true := rfl

end Text

end BracketTemplate
