import Pagewright.Number.Binary64

/-!
# Pagewright.Number.Decimal

Decimal text of double precision numbers.  A positive number is first reduced to a `Decimal`, a
digit string with the place of its point, by one of two rules:

* `Decimal.rounded p` keeps `p` digits, a half going to the even last digit;
* `Decimal.shortest` keeps the fewest digits that read back as the same number, and of the
  candidates of that length the one closest to the number.

`DecimalStyle.write` then places the point and the exponent.
-/

namespace Pagewright

/-- The positive decimal number `digits · 10 ^ exponent`. -/
structure Decimal where
  digits : Nat
  exponent : Int
  deriving DecidableEq, Inhabited

/-- Where positional writing ends and how whole numbers look. -/
structure DecimalStyle where
  /-- The least decimal exponent written positionally. -/
  least : Int
  /-- The first decimal exponent above which a power of ten is split off. -/
  bound : Int
  /-- Whether a whole number written positionally keeps a zero after the point. -/
  pointZero : Bool
  deriving DecidableEq

namespace Decimal

/-- The number of decimal digits. -/
def length (n : Nat) : Nat := (Nat.toDigits 10 n).length

/-- The `k` with `10 ^ (k - 1) ≤ num / den < 10 ^ k`, for positive arguments. -/
def order (num den : Nat) : Int :=
  let k : Int := (length num : Int) - (length den : Int)
  if den * Nat.pow 10 k.toNat ≤ num * Nat.pow 10 (-k).toNat then k + 1 else k

/-- `num / den` in units of `10 ^ exponent`, as a quotient. -/
def scaled (num den : Nat) (exponent : Int) : Nat × Nat :=
  (num * Nat.pow 10 (-exponent).toNat, den * Nat.pow 10 exponent.toNat)

/-- `num / den` to `p` significant digits, a half going to the even last digit. -/
def rounded (p : Nat) (num den : Nat) : Decimal :=
  let exponent := order num den - p
  let (a, b) := scaled num den exponent
  let digits := roundDiv a b
  if digits = Nat.pow 10 p then ⟨Nat.pow 10 (p - 1), exponent + 1⟩ else ⟨digits, exponent⟩

/-- Whether a decimal reads back as a number. -/
def readsAs (d : Decimal) (x : Binary64) : Bool :=
  Binary64.nearest false (d.digits * Nat.pow 10 d.exponent.toNat) (Nat.pow 10 (-d.exponent).toNat) == x

/-- The neighbour of `num / den` among the decimals with `p` digits that reads back as `x`: of two
such neighbours the nearer, of two equally near the even one. -/
def neighbour? (x : Binary64) (num den : Nat) (p : Nat) : Option Decimal :=
  let exponent := order num den - p
  let (a, b) := scaled num den exponent
  let below : Decimal := ⟨a / b, exponent⟩
  let above : Decimal := ⟨a / b + 1, exponent⟩
  match below.readsAs x, above.readsAs x with
  | true, true => some ⟨roundDiv a b, exponent⟩
  | true, false => some below
  | false, true => some above
  | false, false => none

/-- The shortest decimal that reads back as the positive number `x = num / den`.  Seventeen digits
always do. -/
def shortest (x : Binary64) (num den : Nat) : Decimal :=
  ((List.range 17).findSome? fun p => neighbour? x num den (p + 1)).getD (rounded 17 num den)

/-- The digits without the zeros at their end. -/
def significant (d : Decimal) : List Char :=
  ((Nat.toDigits 10 d.digits).reverse.dropWhile (· == '0')).reverse

end Decimal

namespace DecimalStyle

/-- A decimal exponent: its sign and at least two digits. -/
def exponentText (e : Int) : List Char :=
  let digits := Nat.toDigits 10 e.natAbs
  (if e < 0 then '-' else '+') :: (if digits.length < 2 then '0' :: digits else digits)

/-- A decimal in a style. -/
def write (style : DecimalStyle) (d : Decimal) : List Char :=
  let digits := d.significant
  let point : Int := (Decimal.length d.digits : Int) + d.exponent
  if style.least ≤ point - 1 ∧ point - 1 < style.bound then
    if point ≤ 0 then
      '0' :: '.' :: List.replicate (-point).toNat '0' ++ digits
    else if (digits.length : Int) ≤ point then
      digits ++ List.replicate (point.toNat - digits.length) '0' ++
        (if style.pointZero then ['.', '0'] else [])
    else digits.take point.toNat ++ '.' :: digits.drop point.toNat
  else
    match digits with
    | [] => []
    | first :: rest =>
      first :: (if rest.isEmpty then [] else '.' :: rest) ++ 'e' :: exponentText (point - 1)

end DecimalStyle

namespace Binary64

/-- Full text: positional from `1e-4` up to `1e16`, whole numbers with a zero after the point. -/
def fullStyle : DecimalStyle := ⟨-4, 16, true⟩

/-- Brief text: six digits, positional from `1e-4` up to `1e6`, no zeros at the end. -/
def briefStyle : DecimalStyle := ⟨-4, 6, false⟩

private def signed (negative : Bool) (cs : List Char) : String :=
  String.ofList (if negative then '-' :: cs else cs)

/-- The shortest text that reads back as the same number. -/
def text : Binary64 → String
  | .nan => "nan"
  | .infinite s => signed s ['i', 'n', 'f']
  | .finite s m e h =>
    signed s <|
      if m = 0 then ['0', '.', '0']
      else fullStyle.write (Decimal.shortest (.finite false m e h) (ratio m e).1 (ratio m e).2)

/-- The number to six significant digits. -/
def brief : Binary64 → String
  | .nan => "nan"
  | .infinite s => signed s ['i', 'n', 'f']
  | .finite s m e _ =>
    signed s <|
      if m = 0 then ['0'] else briefStyle.write (Decimal.rounded 6 (ratio m e).1 (ratio m e).2)

end Binary64

end Pagewright
