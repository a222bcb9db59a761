import Pagewright.Css.Scope
import Pagewright.Style.Cascade
import Pagewright.Style.Clean

/-!
# Pagewright.Style.Target

The styles of a page as a whole.  They are given for a few fixed targets, each with its own selector.
-/

namespace Pagewright.Style

/-- The targets of page styles and their selectors. -/
def targets : List (String × String) :=
  [("page_body", ".page-body"), ("container", ".container"), ("site_main", ".site-main")]

/-- The CSS of one target: a rule, and the author CSS confined to the target. -/
def targetCss (settings : Settings) (name selector : String) (style : Value) : Except Fault String := do
  let data ← clean settings style
  let texts := [← inline data, declarationsText (← cascadeDeclarations data)].filter (!·.isEmpty)
  let rule :=
    if texts.isEmpty then ""
    else selector ++ " \x7b " ++ String.intercalate "; " texts ++ "; \x7d\n"
  match data.get "custom_css" with
  | .str css =>
    return rule ++ "/* Page Layout Custom CSS: " ++ name ++ " */\n" ++ Css.scope css selector ++ "\n"
  | _ => return rule

/-- The CSS of the styles of a page; what is no object has none. -/
def pageCss (settings : Settings) : Value → Except Fault String
  | .obj ms => do
    let parts ← targets.mapM fun (name, selector) =>
      targetCss settings name selector (Members.get name ms)
    return String.join parts
  | _ => .ok ""

end Pagewright.Style
