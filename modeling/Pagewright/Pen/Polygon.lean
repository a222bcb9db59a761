import Pagewright.Number.Turn
import Pagewright.Pen.Quantity

/-!
# Pagewright.Pen.Polygon

Regular polygons, drawn into a box with one corner at the top.
-/

namespace Pagewright.Pen

/-- The least and the greatest number of sides. -/
def sideLimits : Int × Int := (3, 64)

/-- The angle of a corner: the corners follow each other with the clock from the top. -/
def cornerAngle (sides index : Nat) : Binary64 :=
  ((((Binary64.ofNat 2).mul .pi).mul (.ofNat index)).div (.ofNat sides)).sub
    (Binary64.pi.div (.ofNat 2))

/-- A coordinate to two places. -/
def coordinate (center factor : Binary64) : String :=
  numberText ((center.add (center.mul factor)).roundPlaces 2)

/-- The corners of a polygon that fills a box with one corner at the origin, around the box's centre. -/
def polygonAround (sides : Nat) (x y : Binary64) : String :=
  String.intercalate " " <|
    (List.range sides).map fun index =>
      let angle := cornerAngle sides index
      coordinate x angle.cos ++ "," ++ coordinate y angle.sin

/-- The corners of a polygon that fills a box. -/
def polygonPoints (sides : Nat) (width height : Binary64) : String :=
  polygonAround sides (width.div (.ofNat 2)) (height.div (.ofNat 2))

/-- Half of a length, to the nearest double; the half of an integer has to be in range, not the integer
itself. -/
def half : Value → Except Fault Binary64
  | .bool b => .ok (.nearest false b.toNat 2)
  | .int i =>
    let x := Binary64.nearest (decide (i < 0)) i.natAbs 2
    if x.isFinite then .ok x else .error .overflow
  | .float x => .ok (x.div (.ofNat 2))
  | _ => .error .wrongKind

end Pagewright.Pen
