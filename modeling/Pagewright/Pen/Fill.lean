import Pagewright.Pen.Styled
import Pagewright.Value.Field

/-!
# Pagewright.Pen.Fill

Fills of nodes and of text: plain colours, gradients and images, single or in layers.
-/

namespace Pagewright.Pen

/-- Whether a record is switched off. -/
def isDisabled (ms : Members) : Bool :=
  match ms.get? "enabled" with
  | some (.bool false) => true
  | _ => false

/-- A number in degrees or per cent as an integer; one beyond all bounds is a fault. -/
def roundText (x : Binary64) : Except Fault String :=
  match x, x.round? with
  | _, some i => .ok (toString i)
  | .nan, none => .error .badValue
  | _, none => .error .overflow

/-! ## Gradients -/

/-- A stop of a gradient: its colour, and where it stands. -/
def gradientStop (ms : Members) : Styled String := do
  let color ← colorText ((ms.get? "color").getD (.str "#000000"))
  match ← number? (ms.get "position") with
  | some x => return color ++ " " ++ (← roundText (x.mul (.ofNat 100))) ++ "%"
  | none => return color

/-- The direction of a linear gradient.  Documents count the angle against the clock from above, CSS with
the clock, and half a turn points down. -/
def gradientAngle (v : Value) : Except Fault String := do
  let rotation := (← number? v).getD (.zero false)
  return numberText ((((Binary64.ofNat 360).sub rotation).add (.ofNat 180)).modulo 360)

/-- A gradient with its stops. -/
def gradientOf (ms : Members) (stops : String) : Styled String := do
  match (ms.get? "gradientType").getD (.str "linear") with
  | .str "linear" =>
    let angle ← gradientAngle ((ms.get? "rotation").getD (.int 0))
    return "linear-gradient(" ++ angle ++ "deg, " ++ stops ++ ")"
  | .str "radial" => return "radial-gradient(ellipse at center, " ++ stops ++ ")"
  | .str "angular" => return "conic-gradient(" ++ stops ++ ")"
  | _ => return "linear-gradient(" ++ stops ++ ")"

/-- The gradient of a record, if it has stops. -/
def gradient? (ms : Members) : Styled (Option String) := do
  match ms.get "colors" with
  | .list colors =>
    let stops ← (colors.filterMap Value.members?).mapM gradientStop
    if stops.isEmpty then return none
    else return some (← gradientOf ms (String.intercalate ", " stops))
  | _ => return none

/-! ## Images -/

/-- How an image fills its place. -/
def imageSizes : List (String × String) :=
  [("fill", "cover"), ("fit", "contain"), ("stretch", "100% 100%")]

/-- How the image of a record fills its place. -/
def imageSize (ms : Members) : Except Fault String := do
  let mode ← ((ms.get? "mode").getD (.str "fill")).lookupKey?
  return (mode.bind fun name => imageSizes.lookup name).getD "cover"

/-- The declarations of an image fill, if it has an address. -/
def imageFill (ms : Members) : Styled String := do
  let url := addressText (ms.get "url")
  if url.isEmpty then return ""
  let size ← imageSize ms
  let opacity ← match ms.get? "opacity" with
    | some v => do
      let text ← valueText v
      pure ("opacity: " ++ text ++ ";")
    | none => pure ""
  return "background-image: url('" ++ url ++ "');background-size: " ++ size ++
    ";background-position: center;background-repeat: no-repeat;" ++ opacity

/-! ## Fills -/

/-- The plain colour of a record. -/
def fillColor (ms : Members) : Styled String := colorText ((ms.get? "color").getD (.str ""))

/-- The layers of a fill so far, and the colour behind them. -/
structure Layers where
  images : List String
  color : String

/-- The layers after one more fill. -/
def Layers.add (layers : Layers) : Value → Styled Layers
  | .str s => do
    return { layers with color := "background-color: " ++ (← colorText (.str s)) ++ ";" }
  | .obj ms => do
    if isDisabled ms then return layers
    match (Members.get? "type" ms).getD (.str "color") with
    | .str "color" =>
      return { layers with color := "background-color: " ++ (← fillColor ms) ++ ";" }
    | .str "gradient" =>
      match ← gradient? ms with
      | some gradient => return { layers with images := layers.images ++ [gradient] }
      | none => return layers
    | .str "image" =>
      let url := addressText (Members.get "url" ms)
      if url.isEmpty then return layers
      let size ← imageSize ms
      return { layers with
        images := layers.images ++ ["url('" ++ url ++ "') center / " ++ size ++ " no-repeat"] }
    | _ => return layers
  | _ => return layers

/-- The declarations of fills in layers. -/
def layeredFill (fills : List Value) : Styled String := do
  let layers ← fills.foldlM Layers.add ⟨[], ""⟩
  let images :=
    if layers.images.isEmpty then ""
    else "background: " ++ String.intercalate ", " layers.images ++ ";"
  return images ++ layers.color

/-- The declarations of a fill. -/
def fill : Value → Styled String
  | .str s => do return "background-color: " ++ (← colorText (.str s)) ++ ";"
  | .list fills => layeredFill fills
  | .obj ms => do
    if isDisabled ms then return ""
    match Members.get "type" ms with
    | .str "color" => return "background-color: " ++ (← fillColor ms) ++ ";"
    | .str "gradient" =>
      match ← gradient? ms with
      | some gradient => return "background: " ++ gradient ++ ";"
      | none => return ""
    | .str "image" => imageFill ms
    | _ => return ""
  | _ => return ""

/-- The declarations of the fill of a text: its colour, or a gradient that shows through its letters.  Of
a list, the first fill counts. -/
def textFill : Value → Styled String
  | .str s => do return "color: " ++ (← colorText (.str s)) ++ ";"
  | .obj ms => do
    match Members.get "type" ms with
    | .str "color" => return "color: " ++ (← fillColor ms) ++ ";"
    | .str "gradient" =>
      match ← gradient? ms with
      | some gradient =>
        return "background: " ++ gradient ++ "; -webkit-background-clip: text; " ++
          "-webkit-text-fill-color: transparent; background-clip: text;"
      | none => return ""
    | _ => return ""
  | .list (first :: _) => textFill first
  | _ => return ""

/-- The fill of a drawn shape: a colour, or none. -/
def shapeFill : Value → Styled String
  | .str s => colorText (.str s)
  | .obj ms =>
    if (Members.get "type" ms).isText "color" then
      colorText ((Members.get? "color" ms).getD (.str "none"))
    else return "none"
  | .list (first :: _) => shapeFill first
  | _ => return "none"

end Pagewright.Pen
