import Hydration.Text.CharRange

/-!
# White space

The Unicode property White_Space.
-/

namespace Hydration.Text

/-- The white-space characters beyond ASCII. -/
def blankRanges : List CharRange :=
  [⟨0x85, 0x85, 1⟩, ⟨0xA0, 0xA0, 1⟩, ⟨0x1680, 0x1680, 1⟩, ⟨0x2000, 0x200A, 1⟩,
   ⟨0x2028, 0x2029, 1⟩, ⟨0x202F, 0x202F, 1⟩, ⟨0x205F, 0x205F, 1⟩, ⟨0x3000, 0x3000, 1⟩]

/-- Whether a character is white space. -/
def isBlank (c : Char) : Bool :=
  if c.toNat < 128 then c == ' ' || (decide (9 ≤ c.toNat) && decide (c.toNat ≤ 13))
  else inRanges blankRanges c.toNat

/-- A text without the white space at its start. -/
def dropBlanks (text : List Char) : List Char := text.dropWhile isBlank

end Hydration.Text
