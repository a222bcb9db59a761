import Pagewright.Pen.Fill

/-!
# Pagewright.Pen.Effect

Strokes, shadows and blurs.
-/

namespace Pagewright.Pen

/-! ## Strokes -/

/-- The border of one side, if it has a positive width. -/
def sideBorder (thickness : Members) (style color side : String) : Styled String := do
  let value := (thickness.get? side).getD (.int 0)
  match ← number? value with
  | some x =>
    if (Binary64.zero false).less x then
      return "border-" ++ side ++ ": " ++ (← valueText value) ++ "px " ++ style ++ " " ++ color ++ ";"
    else return ""
  | none => return ""

/-- The declarations of a stroke. -/
def stroke : Value → Styled String
  | .obj [] => return ""
  | .obj ms => do
    let color ← strokeColor "#000000" (Members.get "fill" ms)
    let style := if (Members.get "dashPattern" ms).isTruthy then "dashed" else "solid"
    match (Members.get? "thickness" ms).getD (.int 0) with
    | .obj thickness =>
      let borders ← ["top", "right", "bottom", "left"].mapM (sideBorder thickness style color)
      return String.join borders
    | thickness =>
      let width ← valueText thickness
      if width.isEmpty || width == "0" then return ""
      else return "border: " ++ width ++ "px " ++ style ++ " " ++ color ++ ";"
  | _ => return ""

/-! ## Effects -/

/-- The shadows and blurs of a node so far. -/
structure Effects where
  shadows : List String
  filters : List String
  backdrops : List String

/-- A shadow. -/
def shadow (ms : Members) : Styled String := do
  let offset := ((ms.get "offset").members?).getD []
  let x ← valueText ((offset.get? "x").getD (.int 0))
  let y ← valueText ((offset.get? "y").getD (.int 0))
  let blur ← valueText ((ms.get? "blur").getD (.int 0))
  let spread ← valueText ((ms.get? "spread").getD (.int 0))
  let color ← colorText ((ms.get? "color").getD (.str "#00000040"))
  let inset := if (ms.get "shadowType").isText "inner" then "inset " else ""
  return inset ++ x ++ "px " ++ y ++ "px " ++ blur ++ "px " ++ spread ++ "px " ++ color

/-- A blur. -/
def blur (ms : Members) : Styled String := do
  return "blur(" ++ (← valueText ((ms.get? "radius").getD (.int 0))) ++ "px)"

/-- The effects after one more. -/
def Effects.add (effects : Effects) (v : Value) : Styled Effects :=
  match v with
  | .obj ms => do
    if isDisabled ms then return effects
    match Members.get "type" ms with
    | .str "shadow" => return { effects with shadows := effects.shadows ++ [← shadow ms] }
    | .str "blur" => return { effects with filters := effects.filters ++ [← blur ms] }
    | .str "background_blur" =>
      return { effects with backdrops := effects.backdrops ++ [← blur ms] }
    | _ => return effects
  | _ => return effects

/-- The declarations of effects. -/
def Effects.text (effects : Effects) : String :=
  let shadows := String.intercalate ", " effects.shadows
  let filters := String.intercalate " " effects.filters
  let backdrops := String.intercalate " " effects.backdrops
  (if effects.shadows.isEmpty then "" else "box-shadow: " ++ shadows ++ ";") ++
    (if effects.filters.isEmpty then "" else "filter: " ++ filters ++ ";") ++
    (if effects.backdrops.isEmpty then ""
      else "backdrop-filter: " ++ backdrops ++ "; -webkit-backdrop-filter: " ++ backdrops ++ ";")

/-- The declarations of one effect or of a list of effects. -/
def effects : Value → Styled String
  | .obj ms => do return (← Effects.add ⟨[], [], []⟩ (.obj ms)).text
  | .list vs => do return (← vs.foldlM Effects.add ⟨[], [], []⟩).text
  | _ => return ""

end Pagewright.Pen
