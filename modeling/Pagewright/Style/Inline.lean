import Pagewright.Style.Dimension
import Pagewright.Style.Field
import Pagewright.Style.Quantity
import Pagewright.Value.Display

/-!
# Pagewright.Style.Inline

The part of a style that is written into the style attribute of the container: what its content
inherits or what surrounds the container.  The declarations are in alphabetical order.
-/

namespace Pagewright.Style

/-- A declaration. -/
structure Declaration where
  property : String
  value : String
  deriving DecidableEq

/-- The text of a declaration. -/
def Declaration.text (d : Declaration) : String := d.property ++ ": " ++ d.value

/-- The text of declarations, separated by semicolons. -/
def declarationsText (ds : List Declaration) : String :=
  String.intercalate "; " (ds.map Declaration.text)

/-- The unit of a field. -/
def unitField (data : Members) (field : String) : String :=
  unitOf ((data.get field).text?.getD "")

/-- The text of a field whose value is one of a fixed choice. -/
def choiceField? (data : Members) (field : String) (choices : List String) : Option String :=
  (data.get field).text?.filter choices.contains

/-- The colour of a field. -/
def colorField? (data : Members) (field : String) : Option String :=
  (data.get field).text?.filter isColor

/-- A declaration of a length from a numeric field. -/
def lengthOf? (data : Members) (property field unit : String) : Except Fault (Option Declaration) := do
  return (← quantity? (data.get field)).map fun x => ⟨property, x.compact ++ unit⟩

/-- A declaration of a length that is given as text. -/
def dimensionOf? (data : Members) (property field : String) : Option Declaration :=
  ((data.get field).text?.filter fun s => !s.isEmpty && isDimension s).map (⟨property, ·⟩)

/-- The lengths of a shadow: its two offsets, its blur and its spread.  One that is missing or zero is
the integer zero. -/
def shadowLengths (data : Members) : Except Fault (List (Option Binary64)) :=
  ["shadow_x", "shadow_y", "shadow_blur", "shadow_spread"].mapM fun field => do
    return (← quantity? (data.get field)).filter fun x => !x.isZero

/-- The shadow of the container, if it has a colour and a length that is not zero. -/
def shadow? (data : Members) : Except Fault (Option Declaration) := do
  match colorField? data "shadow_color" with
  | none => return none
  | some color =>
    let lengths ← shadowLengths data
    if lengths.all Option.isNone then return none
    let texts := lengths.map fun x => (x.map Binary64.compact).getD "0" ++ "px"
    return some ⟨"box-shadow", String.intercalate " " (texts ++ [color])⟩

/-- The opacity, if it is below one. -/
def opacity? (data : Members) : Except Fault (Option Declaration) := do
  match ← quantity? (data.get "opacity") with
  | none => return none
  | some x =>
    if x.less (.ofNat 1) then
      return some ⟨"opacity", ((Binary64.zero false).larger ((Binary64.ofNat 1).smaller x)).compact⟩
    else return none

/-- The inline declarations of style data, in alphabetical order of their properties. -/
def inlineDeclarations (data : Members) : Except Fault (List Declaration) := do
  let margin := unitField data "margin_unit"
  let marginBottom ← lengthOf? data "margin-bottom" "margin_bottom" margin
  let marginLeft ← lengthOf? data "margin-left" "margin_left" margin
  let marginRight ← lengthOf? data "margin-right" "margin_right" margin
  let marginTop ← lengthOf? data "margin-top" "margin_top" margin
  let fontSize ← lengthOf? data "font-size" "text_size" (unitField data "text_size_unit")
  let shadow ← shadow? data
  let opacity ← opacity? data
  let color := (colorField? data "text_color").map (Declaration.mk "color")
  let weight := (some (((data.get? "text_weight").getD (.str "")).display)).filter textWeights.contains
  let align := choiceField? data "text_align" textAligns
  return [shadow, color, fontSize, weight.map (Declaration.mk "font-weight"), marginBottom,
    marginLeft, marginRight, marginTop, dimensionOf? data "max-width" "max_width",
    dimensionOf? data "min-height" "min_height", opacity,
    align.map (Declaration.mk "text-align")].filterMap id

/-- The style attribute of style data. -/
def inline (data : Members) : Except Fault String := do
  return declarationsText (← inlineDeclarations data)

end Pagewright.Style
