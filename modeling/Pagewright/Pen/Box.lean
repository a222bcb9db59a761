import Pagewright.Pen.Effect

/-!
# Pagewright.Pen.Box

The boxes of nodes: how they lay out their children, their size, their place, their corners, their
opacity and their rotation.
-/

namespace Pagewright.Pen

/-- A length in pixels. -/
def pixels (v : Value) : Styled String := do return (← valueText v) ++ "px"

/-- A declaration from a member, if it is present and not null. -/
def memberDeclaration (ms : Members) (key property unit : String) : Styled String := do
  let v := ms.get key
  if v.isNull then return ""
  else return property ++ ": " ++ (← valueText v) ++ unit ++ ";"

/-- Whether a datum is a reference to a variable. -/
def isReference : Value → Bool
  | .str s => s.toList.head? == some '$'
  | _ => false

/-! ## Layout -/

/-- Where children stand along the direction of a layout. -/
def justifications : List (String × String) :=
  [ ("start", "flex-start"), ("center", "center"), ("end", "flex-end"),
    ("space_between", "space-between"), ("space_around", "space-around") ]

/-- Where children stand across the direction of a layout. -/
def alignments : List (String × String) :=
  [("start", "flex-start"), ("center", "center"), ("end", "flex-end")]

/-- A declaration of one of a few words, if the member is present and not null. -/
def wordDeclaration (ms : Members) (key property : String) (words : List (String × String)) :
    Except Fault String := do
  let v := ms.get key
  if v.isNull then return ""
  else
    let word := (← v.lookupKey?).bind fun name => words.lookup name
    return property ++ ": " ++ word.getD "flex-start" ++ ";"

/-- The padding: one length, or two or four. -/
def padding (v : Value) : Styled String := do
  if (← number? v).isSome || isReference v then return "padding: " ++ (← pixels v) ++ ";"
  match v with
  | .list vs =>
    if vs.length = 2 ∨ vs.length = 4 then
      return "padding: " ++ String.intercalate " " (← vs.mapM pixels) ++ ";"
    else return ""
  | _ => return ""

/-- The declarations of a layout: a row or a column, or free placement of the children. -/
def layoutOf (ms : Members) (layout : Value) : Styled String := do
  if layout.isNull || layout.isText "none" then return "position: relative;"
  let direction :=
    if layout.isText "vertical" then "flex-direction: column;" else "flex-direction: row;"
  let gap ← memberDeclaration ms "gap" "gap" "px"
  let padding ← padding (ms.get "padding")
  let justify ← wordDeclaration ms "justifyContent" "justify-content" justifications
  let align ← wordDeclaration ms "alignItems" "align-items" alignments
  return "display: flex;" ++ direction ++ gap ++ padding ++ justify ++ align

/-- The declarations of the given layout, or of a node's own if none is given. -/
def layout (ms : Members) (given : Value) : Styled String :=
  layoutOf ms (if given.isNull then ms.get "layout" else given)

/-! ## Size and place -/

/-- One dimension.  A node that fills its container grows along the direction of the container's layout
and takes all of it across; one that fits its content has the number in brackets as least size. -/
def dimension (name : String) (parentLayout v : Value) : Styled String := do
  match ← number? v with
  | some x => return name ++ ": " ++ numberText x ++ "px;"
  | none =>
    match v with
    | .str s =>
      let cs := s.toList
      if isReference v then return name ++ ": " ++ (← valueText v) ++ ";"
      else if Text.startsWith cs "fill_container".toList then
        let along := (name == "width" && parentLayout.isText "horizontal") ||
          (name == "height" && parentLayout.isText "vertical")
        if along then
          let basis := (fallback? cs).elim "0%" fun x => numberText x ++ "px"
          return "flex: 1 1 " ++ basis ++ "; min-" ++ name ++ ": 0;"
        else return name ++ ": 100%;"
      else if Text.startsWith cs "fit_content".toList then
        let least := (fallback? cs).elim "" fun x => "min-" ++ name ++ ": " ++ numberText x ++ "px;"
        return name ++ ": fit-content;" ++ least
      else return ""
    | _ => return ""

/-- Width and height. -/
def sizing (ms : Members) (parentLayout : Value) : Styled String := do
  let width ← dimension "width" parentLayout (ms.get "width")
  let height ← dimension "height" parentLayout (ms.get "height")
  return width ++ height

/-- A place given by its distances from the left and from the top. -/
def position (ms : Members) : Styled String := do
  let left ← memberDeclaration ms "x" "left" "px"
  let top ← memberDeclaration ms "y" "top" "px"
  return "position: absolute;" ++ left ++ top

/-! ## Appearance -/

/-- Whether a datum is a certain number. -/
def isNumber (n : Nat) (v : Value) : Except Fault Bool := do
  return (← number? v).any (·.equal (.ofNat n))

/-- The rotation.  Documents turn against the clock, CSS with the clock. -/
def rotation (v : Value) : Styled String := do
  if v.isNull || (← isNumber 0 v) then return ""
  let text ← valueText v
  match ← number? (.str text) with
  | some x => return "transform: rotate(" ++ numberText x.neg ++ "deg);"
  | none => return "transform: rotate(calc(-1 * " ++ text ++ "));"

/-- The rounding of the corners: one length, or four. -/
def cornerRadius (v : Value) : Styled String := do
  if v.isNull || (← isNumber 0 v) then return ""
  if (← number? v).isSome || isReference v then return "border-radius: " ++ (← pixels v) ++ ";"
  match v with
  | .list vs =>
    if vs.length = 4 then
      return "border-radius: " ++ String.intercalate " " (← vs.mapM pixels) ++ ";"
    else return ""
  | _ => return ""

/-- The opacity, unless it is one. -/
def opacity (v : Value) : Styled String := do
  if v.isNull || (← isNumber 1 v) then return ""
  return "opacity: " ++ (← valueText v) ++ ";"

/-- Whether what overflows is cut off. -/
def clip : Value → String
  | .bool true => "overflow: hidden;"
  | _ => ""

/-- Size, place, corners, opacity, clipping and rotation. -/
def box (ms : Members) (isAbsolute : Bool) (parentLayout : Value) : Styled String := do
  let size ← sizing ms parentLayout
  let place ← if isAbsolute then position ms else pure ""
  let corners ← cornerRadius (ms.get "cornerRadius")
  let opacity ← opacity (ms.get "opacity")
  let rotation ← rotation (ms.get "rotation")
  return size ++ place ++ corners ++ opacity ++ clip (ms.get "clip") ++ rotation

end Pagewright.Pen
