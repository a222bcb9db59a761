import Pagewright.Style.Field
import Pagewright.Style.Image
import Pagewright.Style.Inline

/-!
# Pagewright.Style.Cascade

The part of a style that becomes a rule of the page: background, padding, border and rounded corners,
for the container and for the elements directly inside it, so that the styles of the element do not
win over it.
-/

namespace Pagewright.Style

/-- An address in single quotes, with the single quotes in it escaped. -/
def quotedAddress (s : String) : String :=
  String.ofList ('\'' :: s.toList.flatMap (fun c => if c = '\'' then ['\\', '\''] else [c]) ++ ['\''])

/-- The background image. -/
def backgroundImage? (data : Members) : Option Declaration :=
  ((data.get "bg_image").text?.filter fun s => !s.isEmpty && isImageAddress s).map fun s =>
    ⟨"background-image", "url(" ++ quotedAddress s ++ ")"⟩

/-- A number of a field, if it is positive. -/
def positive? (data : Members) (field : String) : Except Fault (Option Binary64) := do
  return (← quantity? (data.get field)).filter fun x => (Binary64.zero false).less x

/-- The border, if it has a width, a style and a colour. -/
def border? (data : Members) : Except Fault (Option Declaration) := do
  let width ← positive? data "border_width"
  let style := (choiceField? data "border_style" borderStyles).filter (· ≠ "none")
  let unit := unitField data "border_unit"
  match width, style, colorField? data "border_color" with
  | some width, some style, some color =>
    return some ⟨"border", width.compact ++ unit ++ " " ++ style ++ " " ++ color⟩
  | _, _, _ => return none

/-- The rounding of the corners. -/
def radius? (data : Members) : Except Fault (Option Declaration) := do
  let unit := unitField data "border_radius_unit"
  return (← positive? data "border_radius").map fun x => ⟨"border-radius", x.compact ++ unit⟩

/-- The declarations that are not inherited. -/
def cascadeDeclarations (data : Members) : Except Fault (List Declaration) := do
  let unit := unitField data "padding_unit"
  let paddings ← sides.mapM fun side => lengthOf? data ("padding-" ++ side) ("padding_" ++ side) unit
  let border ← border? data
  let radius ← radius? data
  return ([(colorField? data "bg_color").map (Declaration.mk "background-color"),
    backgroundImage? data,
    (choiceField? data "bg_size" backgroundSizes).map (Declaration.mk "background-size"),
    (choiceField? data "bg_position" backgroundPositions).map (Declaration.mk "background-position"),
    (choiceField? data "bg_repeat" backgroundRepeats).map (Declaration.mk "background-repeat")] ++
    paddings ++ [border, radius]).filterMap id

/-- The rule of style data for a scope; no declarations make no rule. -/
def cascade (data : Members) (scope : String) : Except Fault String := do
  match ← cascadeDeclarations data with
  | [] => return ""
  | ds =>
    return scope ++ ", " ++ scope ++ " > * \x7b " ++ declarationsText ds ++ "; \x7d\n"

end Pagewright.Style
