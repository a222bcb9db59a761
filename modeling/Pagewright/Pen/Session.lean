import Pagewright.Pen.Render

/-!
# Pagewright.Pen.Session

Drawing nodes one after the other at one place.  A session keeps the rules and the icon fonts of all
nodes that were drawn in it; the place stays what it is.
-/

namespace Pagewright.Pen

open Markup

/-- A place with what was collected there so far. -/
structure Session where
  context : Context
  place : Place
  rules : List Rule
  fonts : List IconFont

/-- Fonts with more fonts behind them, each once. -/
def joinFonts (fonts more : List IconFont) : List IconFont :=
  more.foldl (fun seen font => if font ∈ seen then seen else seen ++ [font]) fonts

/-- A session in which nothing was drawn. -/
def Session.start (context : Context) (layout : Value) : Session :=
  ⟨context, ⟨[], [], layout⟩, [], []⟩

/-- The session after a node, and the markup of the node. -/
def Session.draw (s : Session) (isScope : Bool) (v : Value) : Session × Except Fault (List Tree) :=
  let drawing := node s.context s.place isScope v
  ({ s with rules := s.rules ++ drawing.rules, fonts := joinFonts s.fonts drawing.fonts },
    drawing.result)

/-- The session after nodes, with the markup of all of them; the first that cannot be drawn ends it. -/
def Session.drawAll (s : Session) (isScope : Bool) : List Value → Except Fault (Session × List Tree)
  | [] => .ok (s, [])
  | v :: vs =>
    match s.draw isScope v with
    | (s, .ok first) => do
      let (s, rest) ← s.drawAll isScope vs
      return (s, first ++ rest)
    | (_, .error f) => .error f

end Pagewright.Pen
