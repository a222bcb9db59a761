import Pagewright.Pen.Node
import Pagewright.Text.Split

/-!
# Pagewright.Pen.Override

Overriding nodes below a root.  An override names its node by an id, which is looked for in preorder, or
by a path of ids from child to child.  A path that meets a reference without children of its own ends
there; what is left of it is an override for the reference.
-/

namespace Pagewright.Pen

/-! ## Finding nodes -/

/-- Where an override applies: the indices from child to child, and what is left of the path. -/
structure Spot where
  steps : List Nat
  rest : List String
  deriving DecidableEq

/-- The spot of a child's spot. -/
def Spot.below (index : Nat) (spot : Spot) : Spot := { spot with steps := index :: spot.steps }

mutual

/-- The first wanted node among nodes and those below them, with the first node at an index. -/
def findAmong (isWanted : Members → Bool) (index : Nat) : List Value → Option (List Nat)
  | [] => none
  | .obj ms :: rest =>
    if isWanted ms then some [index]
    else match findBelow isWanted ms with
      | some steps => some (index :: steps)
      | none => findAmong isWanted (index + 1) rest
  | _ :: rest => findAmong isWanted (index + 1) rest
termination_by vs => sizeOf vs

/-- The first wanted node below a node. -/
def findBelow (isWanted : Members → Bool) (ms : Members) : Option (List Nat) :=
  match h : children? ms with
  | some vs =>
    have := sizeOf_lt_of_children? h
    findAmong isWanted 0 vs
  | none => none
termination_by sizeOf ms

end

/-- The first node with an id in a list, with its index. -/
def childWithId? (id : String) : List Value → Option (Nat × Members)
  | [] => none
  | .obj ms :: rest =>
    if hasId id ms then some (0, ms)
    else (childWithId? id rest).map fun (i, child) => (i + 1, child)
  | _ :: rest => (childWithId? id rest).map fun (i, child) => (i + 1, child)

/-- Whether a path stops at a node: it is a reference and has no list of children. -/
def endsPath (ms : Members) : Except Fault Bool := do
  return (← kind? ms) == some .reference && (children? ms).isNone

/-- The node at the end of a path of ids. -/
def followPath : List String → Members → Except Fault (Option Spot)
  | [], _ => .ok none
  | id :: ids, ms =>
    match (children? ms).bind (childWithId? id) with
    | none => .ok none
    | some (index, child) =>
      if ids.isEmpty then .ok (some ⟨[index], []⟩)
      else do
        if ← endsPath child then return some ⟨[index], ids⟩
        return (← followPath ids child).map (·.below index)

/-- The ids of a path: what stands between its slashes. -/
def pathIds (key : String) : List String :=
  ((Text.split '/' key.toList).filter (!·.isEmpty)).map String.ofList

/-- The spot below a root that a key names. -/
def locate (root : Members) (key : String) : Except Fault (Option Spot) :=
  if key.toList.contains '/' then followPath (pathIds key) root
  else .ok ((findBelow (hasId key) root).map (⟨·, []⟩))

/-- The node at the end of some steps. -/
def nodeAt? : List Nat → Members → Option Members
  | [], ms => some ms
  | i :: steps, ms => do
    match (← children? ms)[i]? with
    | some (.obj child) => nodeAt? steps child
    | _ => none

/-! ## Changing nodes -/

/-- Changes the node at the end of some steps. -/
def modifyAt (change : Members → Members) : List Nat → Members → Members
  | [], ms => change ms
  | i :: steps, ms =>
    match children? ms with
    | some vs =>
      let child : Value → Value
        | .obj child => .obj (modifyAt change steps child)
        | v => v
      ms.set "children" (.list (vs.modify i child))
    | none => ms

/-- A reference with an override for what it refers to. -/
def forward (path : List String) (override ms : Members) : Members :=
  let forwarded := (ms.get "descendants").members?.getD []
  ms.set "descendants" (.obj (forwarded.set (String.intercalate "/" path) (.obj override)))

/-- A node after an override: one with a type takes its place, another one its members. -/
def applyOverride (override ms : Members) : Members :=
  if override.has "type" then override else ms.setAll override

/-- What an override makes of the node at a spot. -/
def Spot.change (spot : Spot) (override ms : Members) : Members :=
  if spot.rest.isEmpty then applyOverride override ms else forward spot.rest override ms

/-- The root after one override; what is no object or names no node changes nothing. -/
def overrideOne (root : Members) (key : String) (override : Value) : Except Fault Members :=
  match override with
  | .obj ms => do
    match ← locate root key with
    | some spot => return modifyAt (spot.change ms) spot.steps root
    | none => return root
  | _ => .ok root

/-- The root after overrides, one after the other, and the fault that stopped them, if one did. -/
def overrideAll (root : Members) : (overrides : Members) → Members × Option Fault
  | [] => (root, none)
  | (key, override) :: rest =>
    match overrideOne root key override with
    | .ok changed => overrideAll changed rest
    | .error f => (root, some f)

end Pagewright.Pen
