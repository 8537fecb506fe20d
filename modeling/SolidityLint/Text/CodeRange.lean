/-!
# Ranges of code points

Properties of characters are given as lists of closed ranges of code points.
-/

namespace SolidityLint.Text

/-- The first and the last code point of a range. -/
abbrev CodeRange := Nat × Nat

def inRanges (ranges : List CodeRange) (code : Nat) : Bool :=
  ranges.any fun range => range.1 ≤ code && code ≤ range.2

end SolidityLint.Text
