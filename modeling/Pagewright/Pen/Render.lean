import Pagewright.Pen.Leaf
import Pagewright.Pen.Reference

/-!
# Pagewright.Pen.Render

Drawing the nodes of a document.  A node that cannot be drawn leaves nothing in its place.  A reference is
drawn as what it stands for; while that is drawn, its component is one that must not be referred to
again.  So references come to an end, since every one of them leaves fewer components to refer to.
-/

namespace Pagewright.Pen

open Markup

/-- What a document is drawn with. -/
structure Context where
  components : Components
  vocabulary : Vocabulary
  maxDepth : Int

/-! ## References -/

/-- The number of components that may still be referred to. -/
def unused (components : Components) (within : List String) : Nat :=
  components.countP fun c => !within.contains c.1

/-- Going into a component leaves no more components to go into. -/
theorem unused_append_le (components : Components) (within : List String) (id : String) :
    unused components (within ++ [id]) ≤ unused components within := by
  apply List.countP_mono_left
  intro c _ h
  simp only [List.contains_append, Bool.not_or, Bool.and_eq_true] at h
  exact h.1

/-- Going into a known component that one is not in already leaves fewer, so references come to an end. -/
theorem unused_append_lt {components : Components} {within : List String} {id : String}
    {component : Members} (found : components.lookup id = some component)
    (new : within.contains id = false) :
    unused components (within ++ [id]) < unused components within := by
  induction components with
  | nil => simp at found
  | cons c cs ih =>
    obtain ⟨key, ms⟩ := c
    by_cases hk : id = key
    · subst hk
      have le := unused_append_le cs within id
      unfold unused at le ⊢
      rw [List.countP_cons_of_neg (by simp), List.countP_cons_of_pos (by simp only [new]; rfl)]
      omega
    · have hk' : (id == key) = false := by simpa using hk
      rw [List.lookup_cons, hk'] at found
      have lt := ih found
      have same : (within ++ [id]).contains key = within.contains key := by
        have : key ≠ id := fun h => hk h.symm
        simp [this]
      unfold unused at lt ⊢
      simp only [List.countP_cons, same]
      omega

/-- A reference goes into a component only if it is known and not around it already. -/
theorem component?_eq_ok {components : Components} {maxDepth : Int} {within : List String}
    {ms component : Members} {id : String}
    (h : component? components maxDepth within ms = .ok (id, component)) :
    components.lookup id = some component ∧ within.contains id = false := by
  unfold component? at h
  split at h
  · split at h
    · cases h
    · split at h
      · cases h
      · next hw =>
        split at h
        · cases h
        · split at h
          · next hc =>
            cases h
            exact ⟨hc, by simpa using hw⟩
          · cases h
  · cases h

/-- What stands in place of a reference that stands for nothing. -/
def diagnostic (classStart : String) (d : Dangling) : List Tree :=
  let name := escape d.name
  let reason := d.cause.reason
  [ .comment (" pen: unresolved reference " ++ name ++ " (" ++ reason ++ ") "),
    .element "div"
      [classAttribute (classStart ++ "diagnostic"), ⟨"data-pen-error", escape reason⟩,
        ⟨"data-ref", name⟩] [] ]

/-! ## Containers -/

/-- The layout of a node, or the usual one of its kind. -/
def layoutOr (default : String) (ms : Members) : Value := (ms.get "layout").orElse (.str default)

/-- The style of a frame. -/
def frameStyle (place : Place) (ms : Members) : Styled String := do
  let layout ← layoutOf ms (layoutOr "horizontal" ms)
  shapeStyle ("box-sizing: border-box;" ++ layout) place ms

/-- The style of a group. -/
def groupStyle (place : Place) (ms : Members) : Styled String := do
  let layout ← if ms.has "layout" then layoutOf ms (layoutOr "none" ms) else pure ""
  let size ← sizing ms place.layout
  let position ← freePosition place ms
  let effects ← effects (ms.get "effect")
  let opacity ← opacity (ms.get "opacity")
  return "box-sizing: border-box;" ++ layout ++ size ++ position ++ effects ++ opacity

/-- The place of a node's children, whose rules a scope holds together. -/
def Place.inside (place : Place) (layout : Value) (scope : List String) : Place :=
  { place with layout, scope := place.scope ++ scope }

/-- The place of what a reference stands for. -/
def Place.refer (place : Place) (id : String) : Place :=
  { place with within := place.within ++ [id] }

/-! ## Nodes -/

mutual

/-- A node.  The class of a scope holds the rules of the nodes below it together.  A node whose type
cannot be told fails itself; it is the container or the reference around it that leaves nothing. -/
def node (cx : Context) (place : Place) (isScope : Bool) (v : Value) : Drawing (List Tree) :=
  match v with
  | .obj ms =>
    if isDisabled ms then pure []
    else match kind? ms with
      | .error f => .fail f
      | .ok none => pure []
      | .ok (some kind) =>
        if (Members.get "reusable" ms).isTruthy then pure []
        else match kind with
          | .frame =>
            container cx place isScope (frameTag ((Members.get? "name" ms).getD (.str "")))
              (layoutOr "horizontal" ms) (frameStyle place ms) ms
          | .group =>
            container cx place isScope "div" (layoutOr "none" ms) (groupStyle place ms) ms
          | .text => (text cx.vocabulary place ms).orNothing
          | .rectangle => (shape cx.vocabulary place "box-sizing: border-box;" ms).orNothing
          | .ellipse =>
            (shape cx.vocabulary place "box-sizing: border-box; border-radius: 50%;" ms).orNothing
          | .line => (line cx.vocabulary place ms).orNothing
          | .polygon => (picture cx.vocabulary place ms (polygonOutline ms)).orNothing
          | .path => (picture cx.vocabulary place ms fun _ _ => pathOutline ms).orNothing
          | .icon => (icon cx.vocabulary place ms).orNothing
          | .reference => reference cx place ms
  | _ => pure []
termination_by (unused cx.components place.within, sizeOf v)

/-- A frame or a group: its rule, and its children inside its element. -/
def container (cx : Context) (place : Place) (isScope : Bool) (tag : String) (layout : Value)
    (style : Styled String) (ms : Members) : Drawing (List Tree) :=
  let cls := cx.vocabulary.className ms
  Drawing.orNothing do
    Drawing.declare place.scope cls (← style)
    let inner ← match h : children? ms with
      | some vs =>
        have := sizeOf_lt_of_children? h
        nodes cx (place.inside layout (if isScope then [cls] else [])) vs
      | none => pure []
    return [.element tag [classAttribute cls] inner]
termination_by (unused cx.components place.within, sizeOf ms)

/-- Nodes one after the other. -/
def nodes (cx : Context) (place : Place) : List Value → Drawing (List Tree)
  | [] => pure []
  | v :: vs => do
    let first ← node cx place false v
    let rest ← nodes cx place vs
    return first ++ rest
termination_by vs => (unused cx.components place.within, sizeOf vs)

/-- A reference: what it stands for as a scope, or a diagnostic. -/
def reference (cx : Context) (place : Place) (ms : Members) : Drawing (List Tree) :=
  Drawing.orNothing <|
    match h : component? cx.components cx.maxDepth place.within ms with
    | .error d => pure (diagnostic cx.vocabulary.classStart d)
    | .ok (id, component) =>
      match resolve ms component with
      | .error f => .fail f
      | .ok resolved =>
        have := unused_append_lt (component?_eq_ok h).1 (component?_eq_ok h).2
        node cx (place.refer id) true (.obj resolved)
termination_by (unused cx.components place.within, sizeOf ms)

end

end Pagewright.Pen
