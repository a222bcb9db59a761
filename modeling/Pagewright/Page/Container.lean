import Pagewright.Css.Scope
import Pagewright.Element.Instance
import Pagewright.Settings
import Pagewright.Style.Cascade
import Pagewright.Template.Render

/-!
# Pagewright.Page.Container

The containers that instances stand in, and the CSS that applies to one container.  A container shows
the id of its instance in an attribute, and the scope of an instance selects containers by their class
and by that attribute.  In a scope only letters, digits, hyphens and underscores of the slug and of the
id are kept.
-/

namespace Pagewright.Container

/-- The characters that may stand in a scope. -/
def isScopeChar (c : Char) : Bool := c.isAlphanum || c == '_' || c == '-'

/-- A text with the characters that may stand in a scope. -/
def scopeText (s : String) : String := String.ofList (s.toList.filter isScopeChar)

/-- The selector of an instance's container. -/
def scope (settings : Settings) (slug : String) (id : Value) : String :=
  "." ++ settings.elementClassPrefix ++ "-" ++ scopeText slug ++ "[data-instance-id=\"" ++
    scopeText id.display ++ "\"]"

/-- The classes of the container of an element, and those that its author adds. -/
def classes (settings : Settings) (slug : String) (style : Members) : String :=
  let own := (Text.words ((style.get "custom_class").text?.getD "").toList).map String.ofList
  let name := settings.elementClassPrefix
  String.intercalate " " (name :: (name ++ "-" ++ slug) :: own)

/-- The attribute that shows the id of an instance. -/
def idAttribute (id : Value) : String := Markup.attr "data-instance-id" (String.ofList id.plain)

/-- A container with what stands in it. -/
def html (settings : Settings) (element : Element) (id : Value) (style : Members)
    (inline inner : String) : String :=
  "<div" ++ Markup.attr "class" (classes settings element.slug style) ++
    Markup.attr "data-element-id" (toString element.id) ++ idAttribute id ++
    (if inline.isEmpty then "" else Markup.attr "style" inline) ++ ">\n" ++ inner ++ "\n</div>\n"

/-- Why an instance is not shown. -/
inductive Trouble where
  | unknownElement
  | inactiveElement
  | malformedSlotData
  | renderError
  deriving DecidableEq

/-- The name of a trouble in a placeholder. -/
def Trouble.name : Trouble → String
  | .unknownElement => "unknown-element"
  | .inactiveElement => "inactive-element"
  | .malformedSlotData => "malformed-slot-data"
  | .renderError => "render-error"

/-- What stands in the place of an instance that is not shown. -/
def placeholder (settings : Settings) (i : Instance) (trouble : Trouble) : String :=
  let name := settings.elementClassPrefix
  "<div class=\"" ++ name ++ " " ++ name ++ "-placeholder\"" ++ idAttribute i.id ++
    Markup.attr "data-error" trouble.name ++ "><!-- element unavailable: " ++
    Markup.escape i.slug ++ " --></div>\n"

/-- The CSS of one container: the rule of its style, and its author CSS inside its scope. -/
def css (settings : Settings) (slug : String) (id : Value) (style : Members) :
    Except Fault String := do
  let selector := scope settings slug id
  let rule ← Style.cascade style selector
  match style.get "custom_css" with
  | .str custom =>
    let confined := Css.scope custom selector
    if confined.isEmpty then return rule
    else
      return rule ++ "/* Custom CSS: instance #" ++ scopeText id.display ++ " */\n" ++ confined ++ "\n"
  | _ => return rule

end Pagewright.Container
