import Pagewright.Pen.Content
import Pagewright.Pen.Drawing
import Pagewright.Pen.Polygon

/-!
# Pagewright.Pen.Leaf

Drawing the nodes without children: texts, plain shapes, lines, polygons, paths and icons.  Every node
has a class made from its id, and a rule with its style for that class.
-/

namespace Pagewright.Pen

open Markup

/-- The texts that nodes share: the defaults of the variables, and what every class starts with. -/
structure Vocabulary where
  defaults : Defaults
  classStart : String

/-- Where a node stands: the components it is part of, the classes it is inside of, and the layout that
places it. -/
structure Place where
  within : List String
  scope : List String
  layout : Value

/-- Whether a place leaves it to its nodes where they stand. -/
def Place.isFree (place : Place) : Bool := place.layout.isText "none"

/-- A text with hyphens for the characters that class names do not have. -/
def classText (s : String) : String :=
  String.ofList (s.toList.map fun c => if isNameChar c then c else '-')

/-- The class of a node. -/
def Vocabulary.className (vocabulary : Vocabulary) (ms : Members) : String :=
  vocabulary.classStart ++ classText ((ms.get "id").orElse (.str "unknown")).display

/-- The attribute of a class. -/
def classAttribute (cls : String) : Attribute := ⟨"class", cls⟩

/-- The place of a node where the layout does not give it one. -/
def freePosition (place : Place) (ms : Members) : Styled String :=
  if place.isFree then position ms else return ""

/-! ## Texts -/

/-- The style of a text. -/
def textStyle (place : Place) (ms : Members) : Styled String := do
  let type ← typography ms
  let color ← textFill (ms.get "fill")
  let size ← sizing ms place.layout
  let position ← freePosition place ms
  let opacity ← opacity (ms.get "opacity")
  let rotation ← rotation (ms.get "rotation")
  let effects ← effects (ms.get "effect")
  let overflow :=
    if (ms.get "textGrowth").isText "fixed-width-height" then "overflow: hidden;" else ""
  return "box-sizing: border-box; margin: 0;" ++ type ++ color ++ size ++ position ++ opacity ++
    rotation ++ effects ++ overflow

/-- Whether a text is markup that is taken over as it is. -/
def isRaw (ms : Members) : Bool :=
  match ms.get "raw" with
  | .bool b => b
  | _ => false

/-- A text: a link if it has an address, else a heading or a paragraph. -/
def text (vocabulary : Vocabulary) (place : Place) (ms : Members) : Drawing (List Tree) := do
  let cls := vocabulary.className ms
  Drawing.declare place.scope cls (← textStyle place ms)
  let content ← content vocabulary.defaults (isRaw ms) (ms.get "content")
  match address? ms with
  | some href => return [.element "a" [⟨"href", escape href⟩, classAttribute cls] content]
  | none => return [.element (← (textTag ms : Styled String)) [classAttribute cls] content]

/-! ## Shapes -/

/-- The style of a box with a fill, after the declarations of its shape. -/
def shapeStyle (shape : String) (place : Place) (ms : Members) : Styled String := do
  let fill ← fill (ms.get "fill")
  let stroke ← stroke (ms.get "stroke")
  let effects ← effects (ms.get "effect")
  let box ← box ms place.isFree place.layout
  return shape ++ fill ++ stroke ++ effects ++ box

/-- A box without content. -/
def shape (vocabulary : Vocabulary) (place : Place) (declarations : String) (ms : Members) :
    Drawing (List Tree) := do
  let cls := vocabulary.className ms
  Drawing.declare place.scope cls (← shapeStyle declarations place ms)
  return [.element "div" [classAttribute cls] []]

/-- The style of a line: a border above nothing. -/
def lineStyle (place : Place) (ms : Members) : Styled String := do
  let stroke := (ms.get "stroke").members?.getD []
  let width := ((← number? ((stroke.get? "thickness").getD (.int 1))).bind Binary64.truncate?).getD 1
  let color ← strokeColor "#000000" (stroke.get "fill")
  let size ← sizing ms place.layout
  let position ← freePosition place ms
  return "box-sizing: border-box; border: none;border-top: " ++ toString width ++ "px solid " ++
    color ++ ";" ++ size ++ position

/-- A line. -/
def line (vocabulary : Vocabulary) (place : Place) (ms : Members) : Drawing (List Tree) := do
  let cls := vocabulary.className ms
  Drawing.declare place.scope cls (← lineStyle place ms)
  return [.void "hr" [classAttribute cls]]

/-! ## Drawn shapes -/

/-- A member that is a number, or a default. -/
def numberOr (default : Nat) (v : Value) : Except Fault Binary64 := do
  return (← number? v).getD (.ofNat default)

/-- The stroke of a drawn shape. -/
def strokeAttributes (v : Value) : Styled (List Attribute) := do
  match v with
  | .obj (m :: ms) =>
    let color ← strokeColor "none" (Members.get "fill" (m :: ms))
    let width := (← number? (Members.get "thickness" (m :: ms))).elim "0" numberText
    return [⟨"stroke", escape color⟩, ⟨"stroke-width", width⟩]
  | _ => return [⟨"stroke", "none"⟩]

/-- A number of sides within its limits. -/
def clampSides (sides : Int) : Nat := (min (max sides sideLimits.1) sideLimits.2).toNat

/-- A regular polygon in a box. -/
def polygonOutline (ms : Members) (width height : Binary64) : Styled Tree := do
  let sides := ((← number? (ms.get "polygonCount")).bind Binary64.truncate?).getD 6
  let fill ← shapeFill (ms.get "fill")
  let stroke ← strokeAttributes (ms.get "stroke")
  let points := polygonPoints (clampSides sides) width height
  return .closed "polygon" (⟨"points", points⟩ :: ⟨"fill", escape fill⟩ :: stroke)

/-- The rule by which a path tells its inside from its outside. -/
def fillRule (v : Value) : String := if v.isText "evenodd" then "evenodd" else "nonzero"

/-- A path. -/
def pathOutline (ms : Members) : Styled Tree := do
  let geometry := (ms.get "geometry").text?.getD ""
  let fill ← shapeFill (ms.get "fill")
  let stroke ← strokeAttributes (ms.get "stroke")
  return .closed "path"
    (⟨"d", escape geometry⟩ :: ⟨"fill", escape fill⟩ ::
      ⟨"fill-rule", fillRule (ms.get "fillRule")⟩ :: stroke)

/-- The style of a picture. -/
def pictureStyle (place : Place) (ms : Members) : Styled String := do
  let size ← sizing ms place.layout
  let position ← freePosition place ms
  let effects ← effects (ms.get "effect")
  return size ++ position ++ effects

/-- A picture with one outline. -/
def picture (vocabulary : Vocabulary) (place : Place) (ms : Members)
    (outline : Binary64 → Binary64 → Styled Tree) : Drawing (List Tree) := do
  let cls := vocabulary.className ms
  let width ← (numberOr 100 (ms.get "width") : Styled Binary64)
  let height ← (numberOr 100 (ms.get "height") : Styled Binary64)
  let outline ← outline width height
  Drawing.declare place.scope cls (← pictureStyle place ms)
  let w := numberText width
  let h := numberText height
  return [.element "svg"
    [classAttribute cls, ⟨"viewBox", "0 0 " ++ w ++ " " ++ h⟩, ⟨"width", w⟩, ⟨"height", h⟩]
    [outline]]

/-! ## Icons -/

/-- The style of an icon. -/
def iconStyle (place : Place) (ms : Members) (width height : Binary64) : Styled String := do
  let color ← textFill (ms.get "fill")
  let position ← freePosition place ms
  return "font-size: " ++ numberText (width.larger height) ++ "px;width: " ++ numberText width ++
    "px; height: " ++ numberText height ++
    "px;display: inline-flex; align-items: center; justify-content: center;" ++ color ++ position

/-- The element of an icon.  Some fonts take the name of the icon as text, the others as a class. -/
def iconElement (cls family name : String) : Tree :=
  if Text.startsWith family.toList "Material Symbols".toList then
    .element "span" [classAttribute (cls ++ " " ++ escape family ++ " " ++ classText family)]
      [.text name]
  else
    let classes :=
      if family = "phosphor" then " ph ph-"
      else if family = "feather" then " feather icon-"
      else " icon-"
    .element "i" [classAttribute (cls ++ classes ++ name)] []

/-- An icon. -/
def icon (vocabulary : Vocabulary) (place : Place) (ms : Members) : Drawing (List Tree) := do
  let cls := vocabulary.className ms
  let family := ((ms.get "iconFontFamily").orElse (.str "lucide")).display
  let name ← valueText ((ms.get? "iconFontName").getD (.str ""))
  let width ← (numberOr 24 (ms.get "width") : Styled Binary64)
  let height ← (numberOr 24 (ms.get "height") : Styled Binary64)
  Drawing.useFont family
  Drawing.declare place.scope cls (← iconStyle place ms width height)
  return [iconElement cls family (escape name)]

end Pagewright.Pen
