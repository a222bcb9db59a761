import Pagewright.Value.Field

/-!
# Pagewright.Pen.Node

The nodes of a design document: their kinds, their children, and all nodes of a tree in preorder.
-/

namespace Pagewright.Pen

/-- The kinds of nodes that are shown. -/
inductive Kind where
  | frame
  | group
  | text
  | rectangle
  | ellipse
  | line
  | polygon
  | path
  | icon
  | reference
  deriving DecidableEq, Repr

/-- The kind that a type names.  Other types serve the design tool only, or mean nothing. -/
def Kind.ofName? : String → Option Kind
  | "frame" => some .frame
  | "group" => some .group
  | "text" => some .text
  | "rectangle" => some .rectangle
  | "ellipse" => some .ellipse
  | "line" => some .line
  | "polygon" => some .polygon
  | "path" => some .path
  | "icon_font" => some .icon
  | "ref" => some .reference
  | "reference" => some .reference
  | _ => none

/-- The kind of a node. -/
def kind? (ms : Members) : Except Fault (Option Kind) := do
  return (← (ms.get "type").lookupKey?).bind Kind.ofName?

/-- Whether a node has an id. -/
def hasId (id : String) (ms : Members) : Bool := (ms.get "id").isText id

/-! ## Children -/

/-- The list of children of a node, if it has one. -/
def children? (ms : Members) : Option (List Value) :=
  match ms.get? "children" with
  | some (.list vs) => some vs
  | _ => none

/-- Children are smaller than their node. -/
theorem sizeOf_lt_of_children? {ms : Members} {vs : List Value} (h : children? ms = some vs) :
    sizeOf vs < sizeOf ms := by
  unfold children? at h
  split at h
  · next ws hw =>
    cases h
    have := Members.sizeOf_lt_of_get? hw
    simp only [Value.list.sizeOf_spec] at this
    omega
  · cases h

mutual

/-- The nodes of a list and all nodes below them, every node before those below it. -/
def preorder : List Value → List Members
  | [] => []
  | .obj ms :: rest => ms :: (below ms ++ preorder rest)
  | _ :: rest => preorder rest
termination_by vs => sizeOf vs

/-- The nodes below a node. -/
def below (ms : Members) : List Members :=
  match h : children? ms with
  | some vs =>
    have := sizeOf_lt_of_children? h
    preorder vs
  | none => []
termination_by sizeOf ms

end

end Pagewright.Pen
