import Pagewright.Markup.Escape
import Pagewright.Template.Lookup
import Pagewright.Template.Parse

/-!
# Pagewright.Template.Render

Filling in a template.
-/

namespace Pagewright

/-- The text of a value in a template.  Null, lists and objects have none, and a number without a
fraction is written as an integer. -/
def Value.plain : Value → List Char
  | .null => []
  | .bool b => (if b then "true" else "false").toList
  | .float x =>
    match x.isIntegral, x.truncate? with
    | true, some i => (toString i).toList
    | _, _ => x.text.toList
  | .str s => s.toList
  | .list _ => []
  | .obj _ => []
  | .int i => (toString i).toList

/-- The text of a value, escaped for HTML. -/
def Value.escaped (v : Value) : String := String.ofList (Markup.escapeChars v.plain)

namespace Template

mutual

/-- The text that a node shows. -/
def Node.render (scopes : List Value) : Node → Except Fault (List Char)
  | .text s => .ok s
  | .insert key raw => do
    let value ← lookup key scopes
    return if raw then value.plain else Markup.escapeChars value.plain
  | .block key inverted children => do
    let value ← lookup key scopes
    if inverted then
      if value.isTruthy then return [] else renderAll scopes children
    else
      match value with
      | .list items => return (← items.mapM fun item => renderAll (item :: scopes) children).flatten
      | _ => if value.isTruthy then renderAll scopes children else return []

/-- The text that nodes show, one after the other. -/
def renderAll (scopes : List Value) : List Node → Except Fault (List Char)
  | [] => .ok []
  | n :: ns => do return (← n.render scopes) ++ (← renderAll scopes ns)

end

/-- The outermost scope; data that is not an object has no slots. -/
def rootScope : (data : Value) → Value
  | .obj ms => .obj ms
  | _ => .obj []

/-- A template filled with data. -/
def render (template : String) (data : Value) : Except Fault String := do
  return String.ofList (← renderAll [rootScope data] (parse template.toList))

end Template

end Pagewright
