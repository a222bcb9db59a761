/-!
# Pagewright.Rendering

What a renderer makes of a page or of a document.
-/

namespace Pagewright

/-- HTML and the CSS that belongs to it. -/
structure Rendering where
  html : String
  css : String
  deriving DecidableEq, Inhabited

/-- The rendering of what cannot be rendered. -/
def Rendering.empty : Rendering := ⟨"", ""⟩

/-- Whether there is neither HTML nor CSS. -/
def Rendering.isEmpty (r : Rendering) : Bool := r.html.isEmpty && r.css.isEmpty

end Pagewright
