/-!
# Pagewright.Text.Slice

The beginning of a sequence, up to an end that may be counted from behind.
-/

namespace Pagewright

/-- The first `n` elements; for a negative number, all but the last `-n`. -/
def takeSigned {α : Type} (n : Int) (xs : List α) : List α :=
  xs.take (if 0 ≤ n then n.toNat else xs.length - n.natAbs)

end Pagewright
