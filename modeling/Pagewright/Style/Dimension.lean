import Pagewright.Style.Color

/-!
# Pagewright.Style.Dimension

Lengths as styles accept them: a decimal number with a unit, or one of two words.
-/

namespace Pagewright.Style

open Text

/-- The units of lengths. -/
def units : List String := ["px", "rem", "em", "%", "vh", "vw"]

/-- The words that stand for a length. -/
def dimensionWords : List String := ["auto", "none"]

/-- What follows the optional fraction of a number: a point, and at least one digit. -/
def afterFraction (cs : List Char) : List Char :=
  match cs with
  | '.' :: c :: rest => if isDecimal c then (c :: rest).dropWhile isDecimal else cs
  | _ => cs

/-- Whether a text is a decimal number with a unit. -/
def isMeasure (cs : List Char) : Bool :=
  let cs := (expect? '-' cs).getD cs
  !(cs.takeWhile isDecimal).isEmpty &&
    units.any fun unit =>
      ((after? unit.toList (afterFraction (cs.dropWhile isDecimal))).any atEnd)

/-- Whether a text is a length, the blanks around it aside. -/
def isDimension (s : String) : Bool :=
  dimensionWords.contains (trimmed s) || isMeasure (trim s.toList)

/-- The unit of a datum; pixels if it is none. -/
def unitOf (v : String) : String := if units.contains v then v else "px"

end Pagewright.Style
