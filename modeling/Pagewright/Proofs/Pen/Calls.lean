import Mathlib.Data.List.Dedup
import Mathlib.Data.List.Perm.Subperm
import Mathlib.Logic.Relation
import Pagewright.Pen.Render

/-!
# Pagewright.Proofs.Pen.Calls

Which nodes are drawn while a node is drawn, and inside which components.  `nodeWith` is the drawing of one
node with the drawings that it starts handed in, and `Calls` says which ones these are.  Every chain of
such drawings comes to an end, so the recursion has one solution.  The components inside which a node
stands are different from each other, are known, and are no more than the depth limit allows.
-/

namespace Pagewright.Pen

open Markup

/-! ## drawing one node -/

/-- A node that is drawn, and where. -/
structure Call where
  place : Place
  isScope : Bool
  value : Value

/-- The drawing of a node. -/
def Call.drawing (cx : Context) (c : Call) : Drawing (List Tree) := node cx c.place c.isScope c.value

/-- Nodes one after the other, each drawn by `draw`. -/
def nodesWith (draw : Call → Drawing (List Tree)) (place : Place) : List Value → Drawing (List Tree)
  | [] => pure []
  | v :: vs => do
    let first ← draw ⟨place, false, v⟩
    let rest ← nodesWith draw place vs
    return first ++ rest

/-- The place of the children of a container. -/
def childPlace (cx : Context) (place : Place) (isScope : Bool) (layout : Value) (ms : Members) : Place :=
  place.inside layout (if isScope then [cx.vocabulary.className ms] else [])

/-- A frame or a group, its children drawn by `draw`. -/
def containerWith (draw : Call → Drawing (List Tree)) (cx : Context) (place : Place) (isScope : Bool)
    (tag : String) (layout : Value) (style : Styled String) (ms : Members) : Drawing (List Tree) :=
  Drawing.orNothing do
    Drawing.declare place.scope (cx.vocabulary.className ms) (← style)
    let inner ← match children? ms with
      | some vs => nodesWith draw (childPlace cx place isScope layout ms) vs
      | none => pure []
    return [.element tag [classAttribute (cx.vocabulary.className ms)] inner]

/-- A reference, what it stands for drawn by `draw`. -/
def referenceWith (draw : Call → Drawing (List Tree)) (cx : Context) (place : Place) (ms : Members) :
    Drawing (List Tree) :=
  Drawing.orNothing <|
    match component? cx.components cx.maxDepth place.within ms with
    | .error d => pure (diagnostic cx.vocabulary.classStart d)
    | .ok (id, component) =>
      match resolve ms component with
      | .error f => .fail f
      | .ok resolved => draw ⟨place.refer id, true, .obj resolved⟩

/-- A node of some kind, the nodes inside it and what it refers to drawn by `draw`. -/
def shownWith (draw : Call → Drawing (List Tree)) (cx : Context) (place : Place) (isScope : Bool)
    (ms : Members) : Kind → Drawing (List Tree)
  | .frame =>
    containerWith draw cx place isScope (frameTag ((Members.get? "name" ms).getD (.str "")))
      (layoutOr "horizontal" ms) (frameStyle place ms) ms
  | .group => containerWith draw cx place isScope "div" (layoutOr "none" ms) (groupStyle place ms) ms
  | .text => (text cx.vocabulary place ms).orNothing
  | .rectangle => (shape cx.vocabulary place "box-sizing: border-box;" ms).orNothing
  | .ellipse => (shape cx.vocabulary place "box-sizing: border-box; border-radius: 50%;" ms).orNothing
  | .line => (line cx.vocabulary place ms).orNothing
  | .polygon => (picture cx.vocabulary place ms (polygonOutline ms)).orNothing
  | .path => (picture cx.vocabulary place ms fun _ _ => pathOutline ms).orNothing
  | .icon => (icon cx.vocabulary place ms).orNothing
  | .reference => referenceWith draw cx place ms

/-- A node, the nodes inside it and what it refers to drawn by `draw`. -/
def nodeWith (draw : Call → Drawing (List Tree)) (cx : Context) (c : Call) : Drawing (List Tree) :=
  match c.value with
  | .obj ms =>
    if isDisabled ms then pure []
    else match kind? ms with
      | .error f => .fail f
      | .ok none => pure []
      | .ok (some kind) =>
        if (Members.get "reusable" ms).isTruthy then pure []
        else shownWith draw cx c.place c.isScope ms kind
  | _ => pure []

/-- Nodes are drawn by the drawing of one node. -/
theorem nodes_eq (cx : Context) (place : Place) (vs : List Value) :
    nodes cx place vs = nodesWith (Call.drawing cx) place vs := by
  induction vs with
  | nil => rw [nodes, nodesWith]
  | cons v vs ih =>
      rw [nodes, nodesWith, ih]
      rfl

/-- A container draws its children by the drawing of one node. -/
theorem container_eq (cx : Context) (place : Place) (isScope : Bool) (tag : String) (layout : Value)
    (style : Styled String) (ms : Members) :
    container cx place isScope tag layout style ms =
      containerWith (Call.drawing cx) cx place isScope tag layout style ms := by
  rw [container, containerWith]
  simp only [← nodes_eq, childPlace]
  congr! 4
  split <;> simp_all

/-- A reference draws what it stands for by the drawing of one node. -/
theorem reference_eq (cx : Context) (place : Place) (ms : Members) :
    reference cx place ms = referenceWith (Call.drawing cx) cx place ms := by
  rw [reference, referenceWith]
  congr 1
  split
  · next d h => rw [h]
  · next id component h =>
    simp only [h]
    rfl

/-- The drawing of a node solves the recursion. -/
theorem drawing_eq (cx : Context) (c : Call) : c.drawing cx = nodeWith (Call.drawing cx) cx c := by
  obtain ⟨place, isScope, v⟩ := c
  rw [Call.drawing, node.eq_def, nodeWith]
  cases v with
  | obj ms =>
      simp only [container_eq, reference_eq]
      rfl
  | _ => rfl

/-! ## the drawings that a drawing starts -/

/-- A node of some kind that is shown: neither disabled nor a component itself. -/
structure IsShown (ms : Members) (kind : Kind) : Prop where
  enabled : isDisabled ms = false
  kind : kind? ms = .ok (some kind)
  used : (Members.get "reusable" ms).isTruthy = false

/-- A node is of one kind. -/
theorem IsShown.unique {ms : Members} {kind other : Kind} (h : IsShown ms kind)
    (h' : IsShown ms other) : kind = other := by
  cases h.kind.symm.trans h'.kind
  rfl

/-- How a node of some kind lays out its children, if it holds any. -/
def childLayout? (ms : Members) : Kind → Option Value
  | .frame => some (layoutOr "horizontal" ms)
  | .group => some (layoutOr "none" ms)
  | _ => none

/-- The drawing of one node starts the drawing of another: a child of a container, or the copy that a
reference stands for. -/
inductive Calls (cx : Context) : Call → Call → Prop
  | child {place : Place} {isScope : Bool} {ms : Members} {kind : Kind} {layout v : Value}
      {vs : List Value} (shown : IsShown ms kind) (container : childLayout? ms kind = some layout)
      (held : children? ms = some vs) (mem : v ∈ vs) :
      Calls cx ⟨place, isScope, .obj ms⟩ ⟨childPlace cx place isScope layout ms, false, v⟩
  | copy {place : Place} {isScope : Bool} {ms component resolved : Members} {id : String}
      (shown : IsShown ms .reference)
      (found : component? cx.components cx.maxDepth place.within ms = .ok (id, component))
      (stands : resolve ms component = .ok resolved) :
      Calls cx ⟨place, isScope, .obj ms⟩ ⟨place.refer id, true, .obj resolved⟩

variable {cx : Context} {f g draw : Call → Drawing (List Tree)} {c d : Call} {ms : Members}

/-- A node that is neither a container nor a reference starts no drawings. -/
theorem not_calls_of_isShown {kind : Kind} (h : c.value = .obj ms) (shown : IsShown ms kind)
    (leaf : childLayout? ms kind = none) (own : kind ≠ .reference) : ¬Calls cx c d := by
  intro call
  cases call with
  | child other container held mem =>
      cases h
      cases shown.unique other
      cases leaf.symm.trans container
  | copy other found stands =>
      cases h
      exact own (shown.unique other)

/-- A node that is shown is drawn according to its kind. -/
theorem nodeWith_of_isShown {kind : Kind} (h : c.value = .obj ms) (shown : IsShown ms kind) :
    nodeWith draw cx c = shownWith draw cx c.place c.isScope ms kind := by
  rw [nodeWith, h]
  simp only [shown.enabled, shown.kind, shown.used]
  rfl

/-- A node that is not shown starts no drawings and collects no rules. -/
theorem isShown_or_nodeWith_eq (cx : Context) (c : Call) :
    (∃ ms kind, c.value = .obj ms ∧ IsShown ms kind) ∨
      ∃ nothing : Drawing (List Tree), nothing.rules = [] ∧ ∀ f, nodeWith f cx c = nothing := by
  unfold nodeWith
  split
  · next ms _ =>
    cases enabled : isDisabled ms with
    | true => exact .inr ⟨pure [], rfl, fun _ => rfl⟩
    | false =>
      cases kind : kind? ms with
      | error e => exact .inr ⟨.fail e, rfl, fun _ => rfl⟩
      | ok kind? =>
        cases kind? with
        | none => exact .inr ⟨pure [], rfl, fun _ => rfl⟩
        | some kind' =>
          cases used : (Members.get "reusable" ms).isTruthy with
          | true => exact .inr ⟨pure [], rfl, fun _ => rfl⟩
          | false => exact .inl ⟨ms, kind', ‹_›, enabled, kind, used⟩
  · exact .inr ⟨pure [], rfl, fun _ => rfl⟩

/-- Nodes in a row depend on the drawing of these nodes only. -/
theorem nodesWith_congr (place : Place) {vs : List Value}
    (same : ∀ v ∈ vs, f ⟨place, false, v⟩ = g ⟨place, false, v⟩) :
    nodesWith f place vs = nodesWith g place vs := by
  induction vs with
  | nil => rfl
  | cons v vs ih =>
      rw [nodesWith, nodesWith, same v (List.mem_cons_self ..),
        ih fun w hw => same w (List.mem_cons_of_mem v hw)]

/-- A container depends on the drawing of its children only. -/
theorem containerWith_congr (place : Place) (isScope : Bool) (tag : String) (layout : Value)
    (style : Styled String) (ms : Members)
    (same : ∀ vs, children? ms = some vs → ∀ v ∈ vs,
      f ⟨childPlace cx place isScope layout ms, false, v⟩ =
        g ⟨childPlace cx place isScope layout ms, false, v⟩) :
    containerWith f cx place isScope tag layout style ms =
      containerWith g cx place isScope tag layout style ms := by
  unfold containerWith
  cases h : children? ms with
  | none => rfl
  | some vs => simp only [nodesWith_congr _ (same vs h)]

/-- A reference depends on the drawing of its copy only. -/
theorem referenceWith_congr (place : Place) (ms : Members)
    (same : ∀ id component resolved,
      component? cx.components cx.maxDepth place.within ms = .ok (id, component) →
      resolve ms component = .ok resolved →
      f ⟨place.refer id, true, .obj resolved⟩ = g ⟨place.refer id, true, .obj resolved⟩) :
    referenceWith f cx place ms = referenceWith g cx place ms := by
  unfold referenceWith
  cases found : component? cx.components cx.maxDepth place.within ms with
  | error d => rfl
  | ok r =>
      obtain ⟨id, component⟩ := r
      cases stands : resolve ms component with
      | error e => simp only [stands]
      | ok resolved => simp only [stands, same id component resolved found stands]

/-- A drawing depends on the drawings that it starts and on no others. -/
theorem nodeWith_congr (same : ∀ d, Calls cx c d → f d = g d) : nodeWith f cx c = nodeWith g cx c := by
  obtain ⟨ms, kind, hv, shown⟩ | ⟨nothing, -, eq⟩ := isShown_or_nodeWith_eq cx c
  · obtain ⟨place, isScope, v⟩ := c
    cases hv
    rw [nodeWith_of_isShown rfl shown, nodeWith_of_isShown rfl shown]
    cases kind with
    | frame =>
      exact containerWith_congr _ _ _ _ _ _ fun vs held v mem => same _ (.child shown rfl held mem)
    | group =>
      exact containerWith_congr _ _ _ _ _ _ fun vs held v mem => same _ (.child shown rfl held mem)
    | reference =>
      exact referenceWith_congr _ _ fun id component resolved found stands =>
        same _ (.copy shown found stands)
    | _ => rfl
  · rw [eq, eq]

/-! ## the end of the recursion -/

/-- A drawing has less of one thing than the one that starts it: components to refer to, or, inside the
same components, data to draw. -/
theorem less_of_calls (h : Calls cx c d) :
    Prod.Lex (· < ·) (· < ·) (unused cx.components d.place.within, sizeOf d.value)
      (unused cx.components c.place.within, sizeOf c.value) := by
  cases h with
  | child shown container held mem =>
      refine Prod.Lex.right _ ?_
      have inner := List.sizeOf_lt_of_mem mem
      have outer := sizeOf_lt_of_children? held
      simp only [Value.obj.sizeOf_spec]
      omega
  | copy shown found stands =>
      obtain ⟨known, new⟩ := component?_eq_ok found
      exact Prod.Lex.left _ _ (unused_append_lt known new)

/-- Every chain of drawings, each started by the one before it, comes to an end. -/
theorem wellFounded_calls (cx : Context) : WellFounded fun d c => Calls cx c d :=
  Subrelation.wf less_of_calls (InvImage.wf _ (Prod.lex Nat.lt_wfRel Nat.lt_wfRel).wf)

/-- The recursion has one solution. -/
theorem eq_drawing_iff : (∀ c, draw c = nodeWith draw cx c) ↔ draw = Call.drawing cx := by
  constructor
  · intro solves
    funext c
    induction c using (wellFounded_calls cx).induction with
    | h c ih => rw [solves c, drawing_eq, nodeWith_congr ih]
  · rintro rfl
    exact drawing_eq cx

/-! ## references -/

/-- A reference stands for nothing: it names no component, or one inside which it stands, or it stands
too deep, or there is no component of its name; the first of these counts. -/
inductive Refused (cx : Context) (within : List String) (ms : Members) : Dangling → Prop
  | missing (unnamed : ∀ id, ms.get "ref" = .str id → id = "") :
      Refused cx within ms ⟨((ms.get? "id").getD (.str "")).display, .missing⟩
  | cycle {id : String} (named : ms.get "ref" = .str id) (nonempty : id ≠ "") (around : id ∈ within) :
      Refused cx within ms ⟨id, .cycle⟩
  | tooDeep {id : String} (named : ms.get "ref" = .str id) (nonempty : id ≠ "") (new : id ∉ within)
      (deep : cx.maxDepth ≤ within.length) : Refused cx within ms ⟨id, .tooDeep⟩
  | unknown {id : String} (named : ms.get "ref" = .str id) (nonempty : id ≠ "") (new : id ∉ within)
      (shallow : within.length < cx.maxDepth) (unknown : cx.components.lookup id = none) :
      Refused cx within ms ⟨id, .unknown⟩

/-- What a reference stands for when it is not refused. -/
structure Named (cx : Context) (within : List String) (ms : Members) (id : String)
    (component : Members) : Prop where
  named : ms.get "ref" = .str id
  nonempty : id ≠ ""
  new : id ∉ within
  shallow : within.length < cx.maxDepth
  known : cx.components.lookup id = some component

variable {within : List String} {id : String} {component : Members} {dangling : Dangling}

/-- A reference is refused or stands for a component: the four refusals leave no other case. -/
theorem refused_or_named (cx : Context) (within : List String) (ms : Members) :
    (∃ dangling, Refused cx within ms dangling) ∨ ∃ id component, Named cx within ms id component := by
  by_cases unnamed : ∀ id, ms.get "ref" = .str id → id = ""
  · exact .inl ⟨_, .missing unnamed⟩
  simp only [not_forall] at unnamed
  obtain ⟨id, named, nonempty⟩ := unnamed
  by_cases around : id ∈ within
  · exact .inl ⟨_, .cycle named nonempty around⟩
  by_cases deep : cx.maxDepth ≤ within.length
  · exact .inl ⟨_, .tooDeep named nonempty around deep⟩
  have shallow := Int.not_le.1 deep
  cases found : cx.components.lookup id with
  | none => exact .inl ⟨_, .unknown named nonempty around shallow found⟩
  | some component => exact .inr ⟨id, component, named, nonempty, around, shallow, found⟩

/-- The compiler refuses a reference in the order of the four cases. -/
theorem component?_of_refused (h : Refused cx within ms dangling) :
    component? cx.components cx.maxDepth within ms = .error dangling := by
  unfold component?
  cases h with
  | missing unnamed =>
      split
      · next id eq =>
        have := unnamed id eq
        simp [this]
      · rfl
  | cycle named nonempty around => simp [named, nonempty, around]
  | tooDeep named nonempty new deep => simp [named, nonempty, new, deep]
  | unknown named nonempty new shallow unknown =>
      simp [named, nonempty, new, Int.not_le.2 shallow, unknown]

/-- It finds the component of any other reference. -/
theorem component?_of_named (h : Named cx within ms id component) :
    component? cx.components cx.maxDepth within ms = .ok (id, component) := by
  unfold component?
  simp [h.named, h.nonempty, h.new, Int.not_le.2 h.shallow, h.known]

/-- What it finds is the component of a reference that is not refused. -/
theorem named_of_component?
    (h : component? cx.components cx.maxDepth within ms = .ok (id, component)) :
    Named cx within ms id component := by
  obtain ⟨dangling, refused⟩ | ⟨other, found, named⟩ := refused_or_named cx within ms
  · rw [component?_of_refused refused] at h
    cases h
  · rw [component?_of_named named] at h
    cases h
    exact named

/-- Each case excludes those before it, so a reference is refused in one way. -/
theorem Refused.unique {other : Dangling} (h : Refused cx within ms dangling)
    (h' : Refused cx within ms other) : dangling = other := by
  have eq := component?_of_refused h
  rw [component?_of_refused h'] at eq
  exact (Except.error.inj eq).symm

/-! ## the components around a node -/

/-- The ids of the components of a drawing, each once. -/
def Context.ids (cx : Context) : List String := (cx.components.map Prod.fst).dedup

/-- Components inside which a node may stand: different from each other, known, and not too many. -/
structure Context.Allows (cx : Context) (within : List String) : Prop where
  distinct : within.Nodup
  known : ∀ id ∈ within, (cx.components.lookup id).isSome
  depth : (within.length : Int) ≤ max cx.maxDepth 0

/-- Around the nodes of the document itself there are no components. -/
theorem Context.Allows.nil (cx : Context) : cx.Allows [] where
  distinct := List.nodup_nil
  known := by simp
  depth := Int.le_max_right ..

/-- A known component is among the ids. -/
theorem Context.mem_ids {id : String} (h : (cx.components.lookup id).isSome) : id ∈ cx.ids := by
  obtain ⟨component, found⟩ := Option.isSome_iff_exists.1 h
  obtain ⟨before, after, split, -⟩ := List.lookup_eq_some_iff.1 found
  simp [ids, split]

/-- There are no more components around a node than there are components. -/
theorem Context.Allows.length_le {within : List String} (h : cx.Allows within) :
    within.length ≤ cx.ids.length :=
  (List.Nodup.subperm h.distinct fun id mem => Context.mem_ids (h.known id mem)).length_le

/-- A reference that is not refused adds a new and known component, where there is room for it. -/
theorem Context.Allows.append {within : List String} {id : String} (around : cx.Allows within)
    (new : id ∉ within) (known : (cx.components.lookup id).isSome)
    (shallow : within.length < cx.maxDepth) : cx.Allows (within ++ [id]) where
  distinct := around.distinct.append (List.nodup_singleton id) (by simpa using new)
  known := by
    intro other mem
    obtain mem | rfl := by simpa using mem
    · exact around.known other mem
    · exact known
  depth := by
    simp only [List.length_append, List.length_singleton]
    omega

/-- A drawing stands inside the components of the one that starts it, and at most one more. -/
theorem allows_of_calls (h : Calls cx c d) (around : cx.Allows c.place.within) :
    cx.Allows d.place.within := by
  cases h with
  | child shown container held mem => exact around
  | @copy place _ _ _ _ id _ found _ =>
      have named := named_of_component? found
      exact around.append named.new (by simp [named.known]) named.shallow

/-- By induction on the chain of drawings, the components around every node are within bounds. -/
theorem allows_of_reflTransGen (h : Relation.ReflTransGen (Calls cx) c d)
    (around : cx.Allows c.place.within) : cx.Allows d.place.within := by
  induction h with
  | refl => exact around
  | tail _ call ih => exact allows_of_calls call ih

/-! ## the answer to a reference -/

/-- A reference that is refused has its diagnostic drawn, and nothing else. -/
theorem nodeWith_of_refused (h : c.value = .obj ms) (shown : IsShown ms .reference)
    (refused : Refused cx c.place.within ms dangling) :
    nodeWith draw cx c = pure (diagnostic cx.vocabulary.classStart dangling) := by
  rw [nodeWith_of_isShown h shown, shownWith, referenceWith, component?_of_refused refused]
  rfl

/-- A reference that is not refused is drawn as what it stands for, or as nothing if there is no such
thing. -/
theorem nodeWith_of_named (h : c.value = .obj ms) (shown : IsShown ms .reference)
    (named : Named cx c.place.within ms id component) :
    nodeWith draw cx c = Drawing.orNothing (match resolve ms component with
      | .error f => .fail f
      | .ok resolved => draw ⟨c.place.refer id, true, .obj resolved⟩) := by
  rw [nodeWith_of_isShown h shown, shownWith, referenceWith, component?_of_named named]

/-- A refused reference starts no drawing. -/
theorem not_calls_of_refused (h : c.value = .obj ms) (shown : IsShown ms .reference)
    (refused : Refused cx c.place.within ms dangling) : ¬Calls cx c d := by
  intro call
  cases call with
  | child other container held mem =>
      cases h
      cases shown.unique other
      cases container
  | copy other found stands =>
      cases h
      cases (component?_of_refused refused).symm.trans found

/-- A reference is answered by a diagnostic of its own, whatever the nodes that it might stand for are
drawn as, exactly when it is refused. -/
theorem answered_iff (h : c.value = .obj ms) (shown : IsShown ms .reference) :
    (∃ dangling, ∀ draw, nodeWith draw cx c = pure (diagnostic cx.vocabulary.classStart dangling)) ↔
      ∃ dangling, Refused cx c.place.within ms dangling := by
  constructor
  · rintro ⟨dangling, answered⟩
    obtain refused | ⟨id, component, named⟩ := refused_or_named cx c.place.within ms
    · exact refused
    · -- were it drawn as what it stands for, it would be nothing when all else is
      have nothing : (nodeWith (fun _ => pure []) cx c).result = .ok [] := by
        rw [nodeWith_of_named h shown named]
        cases resolve ms component <;> rfl
      rw [answered] at nothing
      cases nothing
  · rintro ⟨dangling, refused⟩
    exact ⟨dangling, fun draw => nodeWith_of_refused h shown refused⟩

/-- Drawing comes to an end and stays inside few components.  A chain of drawings, each started by the one
before it, is never endless; a drawing depends on no drawings but those that it starts, and the drawings
are the one solution of the recursion.  The components inside which a node stands are different from each
other, are known, and are no more than the depth limit and the number of components allow.  A reference is
answered by its own diagnostic exactly when it is refused, for the first reason that there is. -/
theorem drawing_ends_within_bounds (cx : Context) :
    WellFounded (fun d c => Calls cx c d) ∧
    (∀ f g c, (∀ d, Calls cx c d → f d = g d) → nodeWith f cx c = nodeWith g cx c) ∧
    (∀ draw, (∀ c, draw c = nodeWith draw cx c) ↔ draw = Call.drawing cx) ∧
    (∀ c d, c.place.within = [] → Relation.ReflTransGen (Calls cx) c d →
      d.place.within.Nodup ∧
      (∀ id ∈ d.place.within, (cx.components.lookup id).isSome) ∧
      (d.place.within.length : Int) ≤ min (max cx.maxDepth 0) cx.ids.length) ∧
    ∀ c ms, c.value = .obj ms → IsShown ms .reference →
      ((∃ dangling, ∀ draw,
          nodeWith draw cx c = pure (diagnostic cx.vocabulary.classStart dangling)) ↔
        ∃ dangling, Refused cx c.place.within ms dangling) ∧
      ∀ dangling, Refused cx c.place.within ms dangling →
        c.drawing cx = pure (diagnostic cx.vocabulary.classStart dangling) ∧
        (∀ d, ¬Calls cx c d) ∧
        ∀ other, Refused cx c.place.within ms other → other = dangling := by
  refine ⟨wellFounded_calls cx, fun f g c => nodeWith_congr, fun draw => eq_drawing_iff, ?_, ?_⟩
  · intro c d start chain
    -- one bound is the depth limit, the other that the components around are distinct and known
    have around := allows_of_reflTransGen chain (start ▸ Context.Allows.nil cx)
    have few := around.length_le
    have depth := around.depth
    exact ⟨around.distinct, around.known, by omega⟩
  · intro c ms h shown
    refine ⟨answered_iff h shown, fun dangling refused => ⟨?_, ?_, ?_⟩⟩
    · rw [drawing_eq]
      exact nodeWith_of_refused h shown refused
    · exact fun d => not_calls_of_refused h shown refused
    · exact fun other again => again.unique refused

/-- A reference to a component. -/
def menuReference : Members := [("type", .str "ref"), ("ref", .str "menu")]

/-- A component that holds a reference to itself. -/
def selfReferring : Context where
  components := [("menu",
    [("type", .str "frame"), ("id", .str "menu"), ("reusable", .bool true),
      ("children", .list [.obj menuReference])])]
  vocabulary := ⟨[], "pen-"⟩
  maxDepth := 10

/-- A reference to the component is drawn as a copy of it, and the reference in the copy as a diagnostic. -/
theorem drawing_ends_within_bounds_selfReferring :
    ∃ c d : Call, c.place.within = [] ∧ Relation.ReflTransGen (Calls selfReferring) c d ∧
      d.place.within = ["menu"] ∧ (d.place.within.length : Int) ≤ min (max 10 0) 1 ∧
      d.drawing selfReferring = pure (diagnostic "pen-" ⟨"menu", .cycle⟩) := by
  have shown : IsShown menuReference .reference := ⟨rfl, rfl, rfl⟩
  let start : Place := ⟨[], [], .str "vertical"⟩
  let frame : Members := [("type", .str "frame"), ("id", .str "menu-inst"), ("reusable", .bool false),
    ("children", .list [.obj menuReference])]
  have frameShown : IsShown frame .frame := ⟨rfl, rfl, rfl⟩
  have copy : Calls selfReferring ⟨start, false, .obj menuReference⟩
      ⟨start.refer "menu", true, .obj frame⟩ := .copy shown rfl rfl
  have child : Calls selfReferring ⟨start.refer "menu", true, .obj frame⟩
      ⟨childPlace selfReferring (start.refer "menu") true (.str "horizontal") frame, false,
        .obj menuReference⟩ :=
    .child frameShown rfl rfl (List.mem_singleton_self _)
  obtain ⟨-, -, -, bounds, answers⟩ := drawing_ends_within_bounds selfReferring
  refine ⟨_, _, rfl, .tail (.single copy) child, rfl, ?_, ?_⟩
  · exact (bounds _ _ rfl (.tail (.single copy) child)).2.2
  · have around : "menu" ∈ ["menu"] := List.mem_singleton_self _
    exact ((answers _ menuReference rfl shown).2 _ (.cycle rfl (by decide) around)).1

end Pagewright.Pen
