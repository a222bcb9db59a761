import Pagewright.Json.Reader
import Pagewright.Slot.Definition

/-!
# Pagewright.Element.Basic

Elements: the reusable parts of pages, each with a template, its own CSS and the slots that the
template takes.  A record of an element has its slots as a list or as JSON text, and says by a flag or
by a status whether the element may be used.
-/

namespace Pagewright

/-- An element of the catalogue. -/
structure Element where
  id : Int
  slug : String
  name : String
  html : String
  css : String
  slots : List Slot.Definition
  version : Int
  active : Bool
  category : String
  description : String
  deriving Inhabited

/-- A column that may hold JSON text.  A blank text is an empty object, and a text that is no JSON
stays what it is. -/
def decodeColumn (v : Value) : Except Fault Value :=
  match v with
  | .str s =>
    if (Text.trim s.toList).isEmpty then .ok (.obj [])
    else match Json.read s with
      | .ok decoded => .ok decoded
      | .error .malformed => .ok v
      | .error .tooLong => .error .badValue
      | .error .tooDeep => .error .endless
  | _ => .ok v

namespace Value

/-- The text of a member, a default if it is missing. -/
def memberText (key default : String) (record : Value) : Except Fault String := do
  match record with
  | .obj ms => return ((Members.get? key ms).getD (.str default)).display
  | _ => .error .noMember

/-- The text of a member, empty if it does not stand for true. -/
def optionalText (key : String) (record : Value) : Except Fault String := do
  return ((← record.member key).orElse (.str "")).display

/-- A datum as an integer, a default if it does not stand for true. -/
def integerOr (default : Int) (v : Value) : Except Fault Int :=
  if v.isTruthy then v.toInteger else .ok default

end Value

namespace Element

/-- The slots of a record's column. -/
def slotsOf (column : Value) : Except Fault (List Slot.Definition) :=
  match column with
  | .list items => Slot.Definition.ofItems items
  | _ => .ok []

/-- Whether a record's element may be used. -/
def activeOf (record : Value) : Except Fault Bool := do
  if ← record.has "active" then
    match record with
    | .obj ms => return (Members.get "active" ms).isTruthy
    | _ => .error .wrongKind
  else return (← record.memberText "status" "active") == "active"

/-- The element of a record. -/
def ofValue (record : Value) : Except Fault Element := do
  let column ← decodeColumn ((← record.first? ["slots", "slots_json"]).getD (.list []))
  let slots ← slotsOf column
  let active ← activeOf record
  let id ← ((← record.first? ["id", "element_id"]).getD (.int 0)).integerOr 0
  let slug ← record.memberText "slug" ""
  let name ← record.memberText "name" ""
  let html ← record.first? ["html_template", "htmlTemplate", "template"]
  let css ← record.optionalText "css"
  let version ← (← record.member "version").integerOr 1
  let category ← record.optionalText "category"
  let description ← record.optionalText "description"
  return {
    id, slug, name, css, slots, version, active, category, description
    html := (html.getD (.str "")).display }

/-- The record of an element. -/
def toMembers (e : Element) : Members :=
  [ ("id", .int e.id), ("slug", .str e.slug), ("name", .str e.name),
    ("html_template", .str e.html), ("css", .str e.css),
    ("slots", .list (Slot.Definition.toItems e.slots)), ("version", .int e.version),
    ("active", .bool e.active), ("category", .str e.category),
    ("description", .str e.description) ]

end Element

end Pagewright
