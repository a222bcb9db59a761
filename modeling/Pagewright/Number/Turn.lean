import Pagewright.Number.Binary64

/-!
# Pagewright.Number.Turn

Sine and cosine by their power series, summed in fixed point with 256 binary places and rounded once
at the end.  With the 128 terms taken here the series is exact to more than 200 places for the
angles of a few turns that drawing a polygon needs.
-/

namespace Pagewright.Binary64

/-- The number of binary places of the fixed-point sums. -/
def turnPlaces : Nat := 256

/-- A number in fixed point. -/
def toFixed (negative : Bool) (m : Nat) (e : Int) : Int :=
  let (num, den) := ratio m (e + turnPlaces)
  if negative then -((num / den : Nat) : Int) else (num / den : Nat)

/-- The number closest to a fixed-point value. -/
def ofFixed (i : Int) : Binary64 := ofScaled (decide (i < 0)) i.natAbs (-(turnPlaces : Int))

/-- The sum of `n` terms of an alternating series: each term is the one before it, times the square
of the angle, divided by the next two factors of the factorial. -/
def series (square : Int) : (n : Nat) → (term : Int) → (factor : Nat) → Int
  | 0, _, _ => 0
  | n + 1, term, factor =>
    let next := -(Int.tdiv (term * square) (Int.pow 2 turnPlaces))
    term + series square n (Int.tdiv next (factor * (factor + 1))) (factor + 2)

private def squareFixed (x : Int) : Int := Int.tdiv (x * x) (Int.pow 2 turnPlaces)

/-- The sine of an angle. -/
def sin : Binary64 → Binary64
  | .finite s m e _ =>
    let x := toFixed s m e
    if m = 0 then zero s else ofFixed (series (squareFixed x) 128 x 2)
  | _ => .nan

/-- The cosine of an angle. -/
def cos : Binary64 → Binary64
  | .finite s m e _ =>
    let x := toFixed s m e
    ofFixed (series (squareFixed x) 128 (Int.pow 2 turnPlaces) 1)
  | _ => .nan

/-- The number closest to the ratio of a circle's circumference to its diameter. -/
def pi : Binary64 := .finite false 7074237752028440 (-51) (by decide)

end Pagewright.Binary64
