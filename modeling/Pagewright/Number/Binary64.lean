/-!
# Pagewright.Number.Binary64

Double precision numbers as exact values: a not-a-number, the two infinities, and the finite
numbers `± significand · 2 ^ exponent` in their one normal form.  Nothing here uses machine floats,
so a result can be computed in a proof as well as in a program.

Every operation is the exact rational operation followed by `Binary64.nearest`, which takes the
closest number, and of two equally close ones the number whose significand is even.
-/

namespace Pagewright

/-- The normal form of a finite number: a significand of 53 bits, or fewer at the least exponent. -/
def Binary64.Canonical (significand : Nat) (exponent : Int) : Prop :=
  significand < Nat.pow 2 53 ∧ -1074 ≤ exponent ∧ exponent ≤ 971 ∧
    (Nat.pow 2 52 ≤ significand ∨ exponent = -1074)

instance (m : Nat) (e : Int) : Decidable (Binary64.Canonical m e) := by
  unfold Binary64.Canonical
  infer_instance

/-- A double precision number. -/
inductive Binary64 where
  | nan
  | infinite (negative : Bool)
  | finite (negative : Bool) (significand : Nat) (exponent : Int)
      (canonical : Binary64.Canonical significand exponent)
  deriving DecidableEq, Inhabited

/-- The quotient of two numbers as an integer; a half goes to the even neighbour. -/
def roundDiv (num den : Nat) : Nat :=
  let q := num / den
  let r := num % den
  if 2 * r < den then q else if den < 2 * r then q + 1 else q + q % 2

namespace Binary64

/-! ## From exact values -/

/-- Zero of a given sign. -/
def zero (negative : Bool) : Binary64 := .finite negative 0 (-1074) (by decide)

/-- The number with this significand and exponent; what is too large for the format is infinite. -/
def ofCanonical (negative : Bool) (m : Nat) (e : Int) : Binary64 :=
  if h : Canonical m e then .finite negative m e h else .infinite negative

/-- The exponent `k` with `2 ^ k ≤ num / den < 2 ^ (k + 1)`, for positive arguments. -/
def binaryOrder (num den : Nat) : Int :=
  let k : Int := (num.log2 : Int) - (den.log2 : Int)
  if num * Nat.pow 2 (-k).toNat < den * Nat.pow 2 k.toNat then k - 1 else k

/-- The number closest to `± num / den`. -/
def nearest (negative : Bool) (num den : Nat) : Binary64 :=
  if num = 0 then zero negative
  else
    let e := max (binaryOrder num den - 52) (-1074)
    let m := roundDiv (num * Nat.pow 2 (-e).toNat) (den * Nat.pow 2 e.toNat)
    if m = Nat.pow 2 53 then ofCanonical negative (Nat.pow 2 52) (e + 1) else ofCanonical negative m e

/-- `m · 2 ^ e` as a quotient. -/
def ratio (m : Nat) (e : Int) : Nat × Nat := (m * Nat.pow 2 e.toNat, Nat.pow 2 (-e).toNat)

/-- The number closest to `± m · 2 ^ e`. -/
def ofScaled (negative : Bool) (m : Nat) (e : Int) : Binary64 :=
  nearest negative (ratio m e).1 (ratio m e).2

/-- The number closest to `± digits · 10 ^ exponent`.  Beyond a magnitude of `10 ^ 310` and below
one of `10 ^ -330` the answer does not depend on the digits, so no large power is computed. -/
def ofDecimal (negative : Bool) (digits : Nat) (exponent : Int) : Binary64 :=
  if digits = 0 then zero negative
  else
    let magnitude : Int := (Nat.toDigits 10 digits).length + exponent
    if 310 < magnitude then .infinite negative
    else if magnitude < -330 then zero negative
    else nearest negative (digits * Nat.pow 10 exponent.toNat) (Nat.pow 10 (-exponent).toNat)

/-- The number closest to an integer, if the integer is within the finite range. -/
def ofInt? (i : Int) : Option Binary64 :=
  match nearest (decide (i < 0)) i.natAbs 1 with
  | .infinite _ => none
  | x => some x

/-- The number closest to a natural number; `0` stands for numbers beyond the finite range. -/
def ofNat (n : Nat) : Binary64 := (ofInt? n).getD (zero false)

/-! ## Views -/

/-- Not a number and the infinities are the numbers that are not finite. -/
def isFinite : Binary64 → Bool
  | .finite .. => true
  | _ => false

/-- The two zeros. -/
def isZero : Binary64 → Bool
  | .finite _ m _ _ => m == 0
  | _ => false

/-- The finite numbers without a fraction. -/
def isIntegral : Binary64 → Bool
  | .finite _ m e _ => (ratio m e).1 % (ratio m e).2 == 0
  | _ => false

private def withSign (negative : Bool) (n : Nat) : Int := if negative then -n else n

/-- The integer part of a finite number, its fraction cut off. -/
def truncate? : Binary64 → Option Int
  | .finite s m e _ => some (withSign s ((ratio m e).1 / (ratio m e).2))
  | _ => none

/-- The integer closest to a finite number; a half goes to the even neighbour. -/
def round? : Binary64 → Option Int
  | .finite s m e _ => some (withSign s (roundDiv (ratio m e).1 (ratio m e).2))
  | _ => none

/-- The number of `n` decimal places closest to the argument, as a double precision number. -/
def roundPlaces (n : Nat) : Binary64 → Binary64
  | .finite s m e _ =>
    nearest s (roundDiv ((ratio m e).1 * Nat.pow 10 n) (ratio m e).2) (Nat.pow 10 n)
  | x => x

/-! ## Order -/

/-- The order of two fractions whose denominators are positive. -/
private def compareRatio (a : Int) (b : Nat) (c : Int) (d : Nat) : Ordering :=
  compare (a * d) (c * b)

/-- The order of two numbers; nothing is ordered with not-a-number, and the two zeros are equal. -/
def order? : Binary64 → Binary64 → Option Ordering
  | .nan, _ => none
  | _, .nan => none
  | .infinite s, .infinite t => some (compare t s)
  | .infinite s, _ => some (if s then .lt else .gt)
  | _, .infinite t => some (if t then .gt else .lt)
  | .finite s m e _, .finite t n f _ =>
    some (compareRatio (withSign s (ratio m e).1) (ratio m e).2
      (withSign t (ratio n f).1) (ratio n f).2)

/-- The order of a number and an integer, on their exact values. -/
def orderInt? (x : Binary64) (i : Int) : Option Ordering :=
  match x with
  | .nan => none
  | .infinite s => some (if s then .lt else .gt)
  | .finite s m e _ => some (compareRatio (withSign s (ratio m e).1) (ratio m e).2 i 1)

/-- Strictly less. -/
def less (x y : Binary64) : Bool := x.order? y == some .lt

/-- Equal as numbers. -/
def equal (x y : Binary64) : Bool := x.order? y == some .eq

/-- The larger of two numbers, the first where neither is larger. -/
def larger (x y : Binary64) : Binary64 := if x.less y then y else x

/-- The smaller of two numbers, the first where neither is smaller. -/
def smaller (x y : Binary64) : Binary64 := if y.less x then y else x

/-! ## Arithmetic -/

/-- The number of opposite sign. -/
def neg : Binary64 → Binary64
  | .nan => .nan
  | .infinite s => .infinite (!s)
  | .finite s m e h => .finite (!s) m e h

/-- The sum.  An exact sum of zero is negative only if both numbers are negative. -/
def add : Binary64 → Binary64 → Binary64
  | .nan, _ => .nan
  | _, .nan => .nan
  | .infinite s, .infinite t => if s = t then .infinite s else .nan
  | .infinite s, _ => .infinite s
  | _, .infinite t => .infinite t
  | .finite s m e _, .finite t n f _ =>
    let low := min e f
    let sum := withSign s (m * Nat.pow 2 (e - low).toNat) + withSign t (n * Nat.pow 2 (f - low).toNat)
    if sum = 0 then zero (s && t) else ofScaled (decide (sum < 0)) sum.natAbs low

/-- The difference. -/
def sub (x y : Binary64) : Binary64 := add x y.neg

/-- The product. -/
def mul : Binary64 → Binary64 → Binary64
  | .nan, _ => .nan
  | _, .nan => .nan
  | .infinite s, .infinite t => .infinite (s != t)
  | .infinite s, .finite t n _ _ => if n = 0 then .nan else .infinite (s != t)
  | .finite s m _ _, .infinite t => if m = 0 then .nan else .infinite (s != t)
  | .finite s m e _, .finite t n f _ => ofScaled (s != t) (m * n) (e + f)

/-- The quotient. -/
def div : Binary64 → Binary64 → Binary64
  | .nan, _ => .nan
  | _, .nan => .nan
  | .infinite _, .infinite _ => .nan
  | .infinite s, .finite t _ _ _ => .infinite (s != t)
  | .finite s _ _ _, .infinite t => zero (s != t)
  | .finite s m e _, .finite t n f _ =>
    if n = 0 then if m = 0 then .nan else .infinite (s != t)
    else nearest (s != t) ((ratio m e).1 * (ratio n f).2) ((ratio m e).2 * (ratio n f).1)

/-- The remainder of a division by a positive integer, between zero and that integer: the exact
remainder of the magnitude, taken from the divisor when the number is negative. -/
def modulo (x : Binary64) (n : Nat) : Binary64 :=
  match x with
  | .finite s m e _ =>
    let (num, den) := ratio m e
    let r := nearest s (num % (n * den)) den
    if num % (n * den) = 0 then zero false else if s then add r (ofNat n) else r
  | _ => .nan

end Binary64

end Pagewright
