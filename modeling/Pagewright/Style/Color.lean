import Pagewright.Number.Numeral
import Pagewright.Text.Blank
import Pagewright.Text.Digit
import Pagewright.Text.Letter

/-!
# Pagewright.Style.Color

The colours that styles accept: a hash with three, four, six or eight digits in base sixteen, or the
channels of a colour from 0 to 255, with an opacity of at most one if there is a fourth.  A line feed
may follow.
-/

namespace Pagewright.Style

open Text

/-- Whether nothing, or one line feed, is left. -/
def atEnd (cs : List Char) : Bool := cs == [] || cs == ['\n']

/-- Whether a character is a digit in base sixteen. -/
def isHexDigit (c : Char) : Bool :=
  c.isDigit || ('a' ≤ c && c ≤ 'f') || ('A' ≤ c && c ≤ 'F')

/-- A hash and three, four, six or eight digits. -/
def isHexColor : List Char → Bool
  | '#' :: cs =>
    let n := (cs.takeWhile isHexDigit).length
    (n == 3 || n == 4 || n == 6 || n == 8) && atEnd (cs.dropWhile isHexDigit)
  | _ => false

/-- A row of decimal digits with blanks around it, and what follows. -/
def channel? (cs : List Char) : Option (List Char × List Char) :=
  let cs := cs.dropWhile isBlank
  let digits := cs.takeWhile isDecimal
  if digits.isEmpty || 3 < digits.length then none
  else some (digits, (cs.dropWhile isDecimal).dropWhile isBlank)

/-- A decimal fraction with blanks around it, and what follows. -/
def alpha? (cs : List Char) : Option (List Char × List Char) :=
  let cs := cs.dropWhile isBlank
  let whole := cs.takeWhile isDecimal
  match cs.dropWhile isDecimal with
  | '.' :: rest =>
    let part := rest.takeWhile isDecimal
    if part.isEmpty then none
    else some (whole ++ '.' :: part, (rest.dropWhile isDecimal).dropWhile isBlank)
  | rest => if whole.isEmpty then none else some (whole, rest.dropWhile isBlank)

/-- The texts of the three channels and of the opacity, if there is one. -/
def channels? (cs : List Char) : Option (List (List Char) × Option (List Char)) := do
  let rest ← after? ['r', 'g', 'b'] cs
  let rest ← expect? '(' ((expect? 'a' rest).getD rest)
  let (red, rest) ← channel? rest
  let (green, rest) ← channel? (← expect? ',' rest)
  let (blue, rest) ← channel? (← expect? ',' rest)
  match expect? ',' rest with
  | some rest =>
    let (alpha, rest) ← alpha? rest
    if atEnd (← expect? ')' rest) then some ([red, green, blue], some alpha) else none
  | none => if atEnd (← expect? ')' rest) then some ([red, green, blue], none) else none

/-- Whether a channel is at most 255. -/
def isChannel (digits : List Char) : Bool :=
  (Numeral.integer? digits).any (· ≤ 255)

/-- Whether an opacity is at most one. -/
def isAlpha (digits : List Char) : Bool :=
  (Numeral.real? digits).any fun x => x.orderInt? 1 == some .lt || x.orderInt? 1 == some .eq

/-- Channels from 0 to 255 and an opacity of at most one. -/
def isRgbColor (cs : List Char) : Bool :=
  match channels? cs with
  | some (rgb, alpha) => rgb.all isChannel && alpha.all isAlpha
  | none => false

/-- Whether a text is a colour. -/
def isColor (s : String) : Bool := isHexColor s.toList || isRgbColor s.toList

end Pagewright.Style
