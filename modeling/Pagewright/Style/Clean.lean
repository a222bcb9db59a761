import Pagewright.Css.Sanitize
import Pagewright.Style.ClassName
import Pagewright.Style.Dimension
import Pagewright.Style.Field
import Pagewright.Style.Image
import Pagewright.Style.Quantity
import Pagewright.Value.Display

/-!
# Pagewright.Style.Clean

Cleaning style data.  Only known fields are kept, each only if its value is one that the field may
have; numbers are rounded and held within the limits of the settings.  Fields may be spelled with
capitals or with underscores; where both spellings of a field are given, the one with underscores
counts.
-/

namespace Pagewright.Style

/-! ## Spelling of fields -/

/-- A capital letter of ASCII. -/
def isCapital (c : Char) : Bool := 'A' ≤ c && c ≤ 'Z'

/-- A field name in small letters, with an underscore in front of every capital but the first
character. -/
def snakeCase (s : String) : String :=
  match s.toList with
  | [] => ""
  | c :: cs =>
    String.ofList
      (Text.lower c :: cs.flatMap fun d => if isCapital d then ['_', Text.lower d] else [Text.lower d])

/-- Style data with all fields spelled with underscores. -/
def normalize (raw : Members) : Members :=
  raw.foldl
    (fun acc (key, value) =>
      let snake := snakeCase key
      if snake = key || !Members.has snake raw then Members.set snake value acc else acc)
    []

/-! ## Values of fields -/

/-- The limits of a numeric field. -/
def limits (settings : Settings) (field : String) : Int × Int :=
  if offsetFields.contains field then
    let limit : Int := settings.offsetLimit.natAbs
    (-limit, limit)
  else (settings.numericMin, settings.numericMax)

/-- The clean value of a numeric field. -/
def cleanNumber? (settings : Settings) (field : String) (v : Value) :
    Except Fault (Option Value) := do
  let (low, high) := limits settings field
  return (← quantity? v).map fun x => .int (clampRound low high x)

/-- The clean opacity. -/
def cleanOpacity? (v : Value) : Except Fault (Option Value) := do
  return (← quantity? v).map fun x => .float ((clampUnit x).roundPlaces 2)

/-- The clean value of a field that holds a unit. -/
def cleanUnit? (v : Value) : Option Value :=
  (v.text?.filter units.contains).map .str

/-- The clean value of a field that holds a colour. -/
def cleanColor? (v : Value) : Option Value :=
  ((v.text?.map trimmed).filter isColor).map .str

/-- The clean value of a field with a fixed choice; a number is taken for its text. -/
def cleanChoice? (choices : List String) (v : Value) : Option Value :=
  match v with
  | .int _ => if choices.contains v.display then some (.str v.display) else none
  | .str s => if choices.contains s then some (.str s) else none
  | _ => none

/-- The clean address of a background image. -/
def cleanImage? (v : Value) : Option Value :=
  ((v.text?.map safeValue).filter fun s => !s.isEmpty && isImageAddress s).map .str

/-- The clean value of a field that holds a length. -/
def cleanDimension? (v : Value) : Option Value :=
  ((v.text?.map safeValue).filter fun s => !s.isEmpty && isDimension s).map .str

/-- The clean class names. -/
def cleanClasses? (v : Value) : Option Value :=
  match classesOf v with
  | [] => none
  | names => some (.str (String.intercalate " " names))

/-- The clean author CSS. -/
def cleanCss? (settings : Settings) (v : Value) : Option Value :=
  ((v.text?.map (Css.sanitize settings)).filter fun s => !s.isEmpty).map .str

/-! ## All fields -/

/-- The members of some fields, as far as they have clean values. -/
def cleanFields (data : Members) (fields : List String) (clean? : Value → Option Value) : Members :=
  fields.filterMap fun field => (clean? (data.get field)).map (field, ·)

/-- The clean members of the numeric fields. -/
def cleanNumbers (settings : Settings) (data : Members) : Except Fault Members := do
  let found ← numericFields.mapM fun field => do
    return (← cleanNumber? settings field (data.get field)).map (field, ·)
  return found.filterMap id

/-- The clean form of style data that is an object. -/
def cleanMembers (settings : Settings) (raw : Members) : Except Fault Members := do
  let data := normalize raw
  let numbers ← cleanNumbers settings data
  let opacity ← cleanOpacity? (data.get "opacity")
  return numbers ++
    (opacity.map ("opacity", ·)).toList ++
    cleanFields data unitFields cleanUnit? ++
    cleanFields data colorFields cleanColor? ++
    (choiceFields.filterMap fun (field, choices) =>
      (cleanChoice? choices (data.get field)).map (field, ·)) ++
    cleanFields data ["bg_image"] cleanImage? ++
    cleanFields data dimensionFields cleanDimension? ++
    cleanFields data ["custom_class"] cleanClasses? ++
    cleanFields data ["custom_css"] (cleanCss? settings) ++
    (flagFields.filterMap fun field =>
      (data.get? field).map fun v => (field, Value.bool v.isTruthy))

/-- The clean form of style data; what is no object has no style. -/
def clean (settings : Settings) : Value → Except Fault Members
  | .obj ms => cleanMembers settings ms
  | _ => .ok []

end Pagewright.Style
