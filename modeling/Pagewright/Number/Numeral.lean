import Pagewright.Number.Binary64
import Pagewright.Text.Blank
import Pagewright.Text.Digit
import Pagewright.Text.Letter

/-!
# Pagewright.Number.Numeral

Numbers written as text by people: blanks around the numeral, a sign, the decimal digits of any
script, and single underscores between digits.  `Numeral.real?` reads a decimal fraction or one of
the words for infinity and not-a-number, `Numeral.integer?` an integer, and `Numeral.hex?` an
integer in base sixteen.
-/

namespace Pagewright.Numeral

open Text

/-- The blanks that may surround a numeral.  The four ASCII separators are not among them. -/
def isMargin (c : Char) : Bool := isBlank c && !(28 ≤ c.toNat && c.toNat ≤ 31)

/-- A text without the blanks around it, its decimal digits replaced by the ASCII ones. -/
def normalize (cs : List Char) : List Char :=
  let inner := ((cs.dropWhile isMargin).reverse.dropWhile isMargin).reverse
  inner.map fun c => match digitValue? c with
    | some d => Nat.digitChar d
    | none => c

/-- The sign at the start of a numeral, and what follows it. -/
def sign : List Char → Bool × List Char
  | '-' :: cs => (true, cs)
  | '+' :: cs => (false, cs)
  | cs => (false, cs)

/-- A text without its underscores, each of which must stand between two digits. -/
def joinDigits (isDigit : Char → Bool) : (previous : Bool) → List Char → Option (List Char)
  | _, [] => some []
  | true, '_' :: c :: cs =>
    if isDigit c then (joinDigits isDigit true cs).map (c :: ·) else none
  | _, '_' :: _ => none
  | _, c :: cs => (joinDigits isDigit (isDigit c) cs).map (c :: ·)

/-- The number written by a row of digits. -/
def value (base : Nat) (digits : List Char) : Nat :=
  digits.foldl (fun n c =>
    n * base + (if c.isDigit then c.toNat - 48 else c.toLower.toNat - 87)) 0

/-! ## Fractions -/

/-- An exponent: the letter, a sign and digits up to the end. -/
def exponent? : List Char → Option Int
  | [] => some 0
  | c :: cs =>
    if c == 'e' || c == 'E' then
      let (negative, digits) := sign cs
      if !digits.isEmpty && digits.all Char.isDigit then
        some (if negative then -(value 10 digits : Int) else value 10 digits)
      else none
    else none

/-- A row of digits with an optional point and exponent. -/
def fraction? (negative : Bool) (cs : List Char) : Option Binary64 :=
  let whole := cs.takeWhile Char.isDigit
  let rest := cs.dropWhile Char.isDigit
  let (part, rest) := match rest with
    | '.' :: more => (more.takeWhile Char.isDigit, more.dropWhile Char.isDigit)
    | _ => ([], rest)
  if whole.isEmpty && part.isEmpty then none
  else (exponent? rest).map fun e =>
    Binary64.ofDecimal negative (value 10 (whole ++ part)) (e - part.length)

/-- The words for numbers that are not finite. -/
def special? (negative : Bool) (cs : List Char) : Option Binary64 :=
  let word := cs.map Char.toLower
  if word == ['i', 'n', 'f'] || word == ['i', 'n', 'f', 'i', 'n', 'i', 't', 'y'] then
    some (.infinite negative)
  else if word == ['n', 'a', 'n'] then some .nan
  else none

/-- The number that a text stands for. -/
def real? (cs : List Char) : Option Binary64 := do
  let joined ← joinDigits Char.isDigit false (normalize cs)
  let (negative, body) := sign joined
  special? negative body <|> fraction? negative body

/-! ## Integers -/

/-- The most digits that an integer may be read from or written with. -/
def digitLimit : Nat := 4300

/-- The integer that a text stands for. -/
def integer? (cs : List Char) : Option Int := do
  let (negative, body) := sign (normalize cs)
  let digits ← joinDigits Char.isDigit false body
  if digits.isEmpty || !digits.all Char.isDigit || digitLimit < digits.length then none
  else if negative then some (-(value 10 digits : Int))
  else some (value 10 digits)

private def isHexDigit (c : Char) : Bool :=
  c.isDigit || ('a' ≤ c && c ≤ 'f') || ('A' ≤ c && c ≤ 'F')

/-- The integer that a text stands for in base sixteen, an optional `0x` in front. -/
def hex? (cs : List Char) : Option Int := do
  let (negative, body) := sign (normalize cs)
  let body := match body with
    | '0' :: x :: '_' :: rest => if x == 'x' || x == 'X' then rest else body
    | '0' :: x :: rest => if x == 'x' || x == 'X' then rest else body
    | _ => body
  let digits ← joinDigits isHexDigit false body
  if digits.isEmpty || !digits.all isHexDigit then none
  else if negative then some (-(value 16 digits : Int))
  else some (value 16 digits)

end Pagewright.Numeral
