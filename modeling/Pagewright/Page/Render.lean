import Pagewright.Element.Catalogue
import Pagewright.Enrichment.Registry
import Pagewright.Page.Container
import Pagewright.Page.Layout
import Pagewright.Rendering
import Pagewright.Slot.Coerce
import Pagewright.Style.Target

/-!
# Pagewright.Page.Render

Rendering pages.  The data of an instance is fitted to the slots of its element, completed if the
element is dynamic, and filled into the template; the style goes partly into the container and partly
into the CSS of the page.  An instance that cannot be shown becomes a placeholder and does not affect
the others.
-/

namespace Pagewright

/-- What a page is rendered with: the settings, where its elements come from, and what completes the
data of dynamic elements. -/
structure Renderer where
  settings : Settings
  source : ElementSource
  enricher : Option Enrichment.Enricher

/-- A result and the numbers of posts that were asked for on the way. -/
structure Requested (α : Type) where
  requests : List Int
  result : Except Fault α

namespace Renderer

/-- The slot data of an element after completion; data that cannot be completed stays as it is.  There is none
if it cannot be told whether the element is dynamic. -/
def complete (r : Renderer) (slug : String) (data : Members) : Requested Members :=
  match r.enricher with
  | none => ⟨[], .ok data⟩
  | some e =>
    match e.isDynamic slug with
    | .error f => ⟨[], .error f⟩
    | .ok false => ⟨[], .ok data⟩
    | .ok true =>
      let outcome := e.enrich slug data
      match outcome.result with
      | .ok (.obj ms) => ⟨outcome.requests, .ok ms⟩
      | _ => ⟨outcome.requests, .ok data⟩

/-- An instance of an element in its container, with the CSS of the container. -/
def container (r : Renderer) (element : Element) (i : Instance) (data : Members) :
    Except Fault Rendering := do
  let inner ← Template.render element.html (.obj data)
  let style ← Style.clean r.settings (.obj i.styleData)
  let inline ← Style.inline style
  let css ← Container.css r.settings element.slug i.id style
  return ⟨Container.html r.settings element i.id style inline inner, css⟩

/-- An instance, of a given element or of the one that its slug names. -/
def instance? (r : Renderer) (i : Instance) (given : Option Element) : Requested Rendering :=
  let placeholder (t : Container.Trouble) : Requested Rendering :=
    ⟨[], .ok ⟨Container.placeholder r.settings i t, ""⟩⟩
  match given.elim (r.source i.slug) (fun e => .ok (some e)) with
  | .error f => ⟨[], .error f⟩
  | .ok none => placeholder .unknownElement
  | .ok (some element) =>
    if !element.active then placeholder .inactiveElement
    else match i.slotData with
      | .obj data =>
        match Slot.coerce element.slots data with
        | .error f => ⟨[], .error f⟩
        | .ok (data, _) =>
          let completed := r.complete element.slug data
          ⟨completed.requests, completed.result >>= r.container element i⟩
      | _ => placeholder .malformedSlotData

/-- The HTML of an instance on a page; one that cannot be rendered is replaced. -/
def segment (r : Renderer) (i : Instance) : String :=
  match (r.instance? i none).result with
  | .ok rendering => rendering.html
  | .error _ => Container.placeholder r.settings i .renderError

/-- The HTML of a page. -/
def html (r : Renderer) (page : Page) : String := String.join (page.ordered.map r.segment)

/-- The numbers of posts that are asked for when a page is rendered. -/
def requests (r : Renderer) (page : Page) : List Int :=
  page.ordered.flatMap fun i => (r.instance? i none).requests

/-! ## The CSS of a page -/

/-- The instances that are shown, with their elements. -/
def shown (r : Renderer) : List Instance → Except Fault (List (Instance × Element))
  | [] => .ok []
  | i :: is => do
    let found ← r.source i.slug
    let rest ← r.shown is
    match found with
    | some e => return if e.active then (i, e) :: rest else rest
    | none => return rest

/-- The elements with different slugs, in the order of their first appearance. -/
def distinct (elements : List Element) : List Element :=
  elements.foldl
    (fun seen e => if seen.any fun f => f.slug == e.slug then seen else seen ++ [e]) []

/-- The CSS that an element brings along, under a heading; blank CSS is none. -/
def elementCss? (e : Element) : Option String :=
  let css := trimmed e.css
  let name := if e.name.isEmpty then e.slug else e.name
  let label := String.ofList (name.toList.filter fun c => c != '*' && c != '/')
  if css.isEmpty then none else some ("/* Element: " ++ label ++ " */\n" ++ css ++ "\n")

/-- The CSS of a page: that of its elements, that of its containers, that of its layout, and that of
the page as a whole. -/
def css (r : Renderer) (page : Page) : Except Fault String := do
  let shown ← r.shown page.ordered
  let elements := (distinct (shown.map (·.2))).filterMap elementCss?
  let containers ← shown.mapM fun (i, e) => do
    Container.css r.settings e.slug i.id (← Style.clean r.settings (.obj i.styleData))
  let layout ← Layout.css r.settings page.layout
  let style ← Style.pageCss r.settings (.obj page.style)
  let nonEmpty (ss : List String) := ss.filter (!·.isEmpty)
  return String.intercalate "\n"
    (elements ++ nonEmpty containers ++ nonEmpty [layout] ++
      nonEmpty [if style.isEmpty then "" else "/* Page Layout Styles */\n" ++ style])

end Renderer

end Pagewright
