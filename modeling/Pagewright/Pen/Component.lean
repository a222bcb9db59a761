import Pagewright.Pen.Node

/-!
# Pagewright.Pen.Component

The components of a document: the nodes that are reusable and have an id.  A frame or a group without
children is no component.  Of several components with one id the first in preorder counts.
-/

namespace Pagewright.Pen

/-- Components by id. -/
abbrev Components := List (String × Members)

/-- Whether a node of some kind holds other nodes. -/
def Kind.isContainer : Kind → Bool
  | .frame => true
  | .group => true
  | _ => false

/-- The id under which a node is a component, if it is one. -/
def componentId? (ms : Members) : Except Fault (Option String) :=
  match (ms.get "reusable").isTruthy, ms.get "id" with
  | true, .str id =>
    if id.isEmpty then .ok none
    else do
      let isHollow := (← kind? ms).any Kind.isContainer && !(ms.get "children").isTruthy
      return if isHollow then none else some id
  | _, _ => .ok none

namespace Components

/-- The components with one more node, if it is a component and its id is new. -/
def add (components : Components) (ms : Members) : Except Fault Components := do
  match ← componentId? ms with
  | some id =>
    return if (components.lookup id).isSome then components else components ++ [(id, ms)]
  | none => return components

/-- The components among nodes and all nodes below them. -/
def ofNodes (nodes : List Value) : Except Fault Components := (preorder nodes).foldlM add []

end Components

end Pagewright.Pen
