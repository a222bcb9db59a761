/-!
# Pagewright.Text.Range

Sets of characters given as ascending, disjoint ranges of code points.
-/

namespace Pagewright.Text

/-- Whether a code point lies in one of the ranges. -/
def inRanges (ranges : List (Nat × Nat)) (c : Char) : Bool :=
  ranges.any fun r => r.1 ≤ c.toNat && c.toNat ≤ r.2

end Pagewright.Text
