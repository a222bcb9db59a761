import Pagewright.Pen.Box

/-!
# Pagewright.Pen.Typography

The type of texts.
-/

namespace Pagewright.Pen

/-- A declaration from a member, if it is present. -/
def typeDeclaration (ms : Members) (key property unit : String) : Styled String := do
  match ms.get? key with
  | some v => return property ++ ": " ++ (← valueText v) ++ unit ++ ";"
  | none => return ""

/-- The font family: a reference to a variable, or a name in quotes. -/
def fontFamily (ms : Members) : Styled String := do
  match ms.get? "fontFamily" with
  | none => return ""
  | some v =>
    let family ← valueText v
    if Text.startsWith family.toList "var(".toList then return "font-family: " ++ family ++ ";"
    else
      let name := String.ofList (family.toList.filter (· != '"'))
      return "font-family: \"" ++ name ++ "\", sans-serif;"

/-- The lines under and through a text. -/
def decoration (ms : Members) : String :=
  let lines :=
    (if (ms.get "underline").isTruthy then ["underline"] else []) ++
      (if (ms.get "strikethrough").isTruthy then ["line-through"] else [])
  if lines.isEmpty then "" else "text-decoration: " ++ String.intercalate " " lines ++ ";"

/-- The declarations of the type of a text. -/
def typography (ms : Members) : Styled String := do
  let family ← fontFamily ms
  let size ← typeDeclaration ms "fontSize" "font-size" "px"
  let weight ← typeDeclaration ms "fontWeight" "font-weight" ""
  let style ← typeDeclaration ms "fontStyle" "font-style" ""
  let spacing ← typeDeclaration ms "letterSpacing" "letter-spacing" "px"
  let height ← typeDeclaration ms "lineHeight" "line-height" ""
  let align ← typeDeclaration ms "textAlign" "text-align" ""
  return family ++ size ++ weight ++ style ++ spacing ++ height ++ align ++ decoration ms

end Pagewright.Pen
