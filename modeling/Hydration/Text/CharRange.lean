/-!
# Character ranges

A property of characters as a list of evenly spaced ranges. The tables of this
folder hold the characters beyond ASCII; each predicate states the ASCII part
of its property itself.
-/

namespace Hydration.Text

/-- Code points from the first to the last in equal steps. -/
structure CharRange where
  /-- The first code point. -/
  first : Nat
  /-- The last code point. -/
  last : Nat
  /-- The distance between neighbours. -/
  step : Nat
  deriving DecidableEq

/-- Whether a code point belongs to a range. -/
def CharRange.contains (range : CharRange) (code : Nat) : Bool :=
  decide (range.first ≤ code) && decide (code ≤ range.last)
    && (code - range.first) % range.step == 0

/-- Whether a code point belongs to one of the ranges. -/
def inRanges (ranges : List CharRange) (code : Nat) : Bool :=
  ranges.any fun range => range.contains code

end Hydration.Text
