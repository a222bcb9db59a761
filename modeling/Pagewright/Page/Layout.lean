import Pagewright.Settings
import Pagewright.Text.Replace
import Pagewright.Value.Field

/-!
# Pagewright.Page.Layout

The layouts of pages.  A page that names no layout, or one that there is not, gets the layout of the
settings.
-/

namespace Pagewright.Layout

/-- The CSS of the layouts. -/
def presets : List (String × String) :=
  [ ("default",
      ".page-body\x7bmax-width:1100px;margin:0 auto;padding:0 1rem\x7d\n" ++
        ".page-body>.lcms-el\x7bdisplay:block\x7d"),
    ("full-width",
      ".page-body\x7bmax-width:none;margin:0;padding:0\x7d\n" ++
        ".page-body>.lcms-el\x7bwidth:100%\x7d"),
    ("narrow", ".page-body\x7bmax-width:720px;margin:0 auto;padding:0 1rem\x7d"),
    ("sidebar-left",
      ".page-body\x7bdisplay:grid;grid-template-columns:280px minmax(0,1fr);gap:2rem;" ++
        "max-width:1280px;margin:0 auto;padding:0 1rem\x7d"),
    ("sidebar-right",
      ".page-body\x7bdisplay:grid;grid-template-columns:minmax(0,1fr) 280px;gap:2rem;" ++
        "max-width:1280px;margin:0 auto;padding:0 1rem\x7d") ]

/-- The layout that a datum names, if there is such a layout. -/
def named? (v : Value) : Except Fault (Option (String × String)) := do
  return (← v.lookupKey?).bind fun name => (presets.lookup name).map (name, ·)

/-- The CSS of a layout under a heading, the class of the containers put in. -/
def presetCss (settings : Settings) (name css : String) : String :=
  "/* Layout: " ++ name ++ " */\n" ++
    String.ofList (Text.replace ".lcms-el".toList ('.' :: settings.elementClassPrefix.toList)
      css.toList) ++ "\n"

/-- The CSS of the layout that a page names. -/
def css (settings : Settings) (layout : Value) : Except Fault String := do
  let usual := Value.str settings.defaultLayout
  match ← named? (layout.orElse usual) with
  | some (name, css) => return presetCss settings name css
  | none =>
    match ← named? usual with
    | some (name, css) => return presetCss settings name css
    | none => return ""

end Pagewright.Layout
