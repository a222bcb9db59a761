import Pagewright.Fault
import Pagewright.Number.Decimal
import Pagewright.Number.Numeral
import Pagewright.Text.Blank
import Pagewright.Value.Basic

/-!
# Pagewright.Style.Quantity

The numbers of style data: finite numbers, or texts that can be read as such.
-/

namespace Pagewright

/-- A number without a fraction as an integer, any other to six significant digits. -/
def Binary64.compact (x : Binary64) : String :=
  match x.isIntegral, x.truncate? with
  | true, some i => toString i
  | _, _ => x.brief

namespace Style

/-- The number of a datum, if it has one.  An integer beyond the range of numbers is a fault. -/
def quantity? (v : Value) : Except Fault (Option Binary64) :=
  match v with
  | .int i =>
    match Binary64.ofInt? i with
    | some x => .ok (some x)
    | none => .error .overflow
  | .float x => .ok (if x.isFinite then some x else none)
  | .str s => .ok ((Numeral.real? (Text.trim s.toList)).filter Binary64.isFinite)
  | _ => .ok none

/-- The number as an integer between two limits; the upper limit wins if they cross. -/
def clampRound (low high : Int) (x : Binary64) : Int :=
  if x.orderInt? low == some .lt then min low high
  else if x.orderInt? high == some .gt then high
  else x.round?.getD 0

/-- The number between zero and one. -/
def clampUnit (x : Binary64) : Binary64 :=
  (x.larger (.zero false)).smaller (.ofNat 1)

end Style

end Pagewright
