/-!
# Ranges of characters

A property of characters is given by the code points that have it, as a list of inclusive ranges.
-/

namespace BoundaryContract.Text

/-- Membership of a code point in one of the ranges. -/
def inRanges (ranges : List (Nat × Nat)) (code : Nat) : Bool :=
  ranges.any fun range => range.1 ≤ code && code ≤ range.2

end BoundaryContract.Text
