import Pagewright.Pen.Component
import Pagewright.Pen.Override
import Pagewright.Value.Display

/-!
# Pagewright.Pen.Reference

References to components.  A reference stands for a copy of its component with members of its own in
place of the component's, and with overrides for the nodes below.  It does not stand for anything if it
names no component, or one inside which it stands, or if it stands too deep.
-/

namespace Pagewright.Pen

/-- Why a reference stands for nothing. -/
inductive Unresolved where
  | missing
  | cycle
  | tooDeep
  | unknown
  deriving DecidableEq, Repr

/-- The word for why a reference stands for nothing. -/
def Unresolved.reason : Unresolved → String
  | .missing => "missing-ref"
  | .cycle => "cycle"
  | .tooDeep => "max-depth"
  | .unknown => "not-found"

/-- A reference that stands for nothing: what it names, and why. -/
structure Dangling where
  name : String
  cause : Unresolved
  deriving DecidableEq

/-- The component that a node refers to, with its id, given the components inside which it stands. -/
def component? (components : Components) (maxDepth : Int) (within : List String) (ms : Members) :
    Except Dangling (String × Members) :=
  match ms.get "ref" with
  | .str id =>
    if id.isEmpty then .error ⟨((ms.get? "id").getD (.str "")).display, .missing⟩
    else if within.contains id then .error ⟨id, .cycle⟩
    else if maxDepth ≤ within.length then .error ⟨id, .tooDeep⟩
    else match components.lookup id with
      | some component => .ok (id, component)
      | none => .error ⟨id, .unknown⟩
  | _ => .error ⟨((ms.get? "id").getD (.str "")).display, .missing⟩

/-- The members of a reference that are not members of what it stands for. -/
def ownMembers : List String := ["type", "ref", "descendants", "id", "reusable"]

/-- The id of what a reference stands for: its own, or one made from what it names. -/
def instanceId (ms : Members) : Except Fault Value :=
  let id := ms.get "id"
  if id.isTruthy then .ok id
  else match ms.get? "ref" with
    | some name => .ok (.str (name.display ++ "-inst"))
    | none => .error .missingKey

/-- What a reference stands for. -/
def resolve (ms component : Members) : Except Fault Members := do
  let id ← instanceId ms
  let merged := component.setAll (ms.filter fun m => !ownMembers.contains m.1)
  let root := (merged.set "id" id).set "reusable" (.bool false)
  match ms.get "descendants" with
  | .obj overrides =>
    match overrideAll root overrides with
    | (changed, none) => return changed
    | (_, some f) => .error f
  | _ => return root

end Pagewright.Pen
