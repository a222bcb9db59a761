import Pagewright.Proofs.Pen.Failure
import Pagewright.Proofs.Pen.Fonts

/-!
# Pagewright.Proofs.Pen.Walk

Drawing with one session that changes on the way.  A walk draws a node step by step: it enters a container,
draws the children there and leaves it again, and it does the same with what a reference stands for.  A
fault inside does not keep it from leaving; the node around the fault takes it back.

A walk goes down to some depth of nodes inside each other.  From some depth on it always comes to an end,
and what it leaves is the session that it started with and the rules and fonts of the drawing of the node
behind those that were there.
-/

namespace Pagewright.Pen

open Markup

/-! ## steps of a walk -/

namespace Session

/-- The session with what a drawing collects. -/
def collect {α : Type} (s : Session) (d : Drawing α) : Session :=
  { s with rules := s.rules ++ d.rules, fonts := d.fonts.foldl addFont s.fonts }

/-- The session after a drawing, and the result of the drawing. -/
def perform {α : Type} (s : Session) (d : Drawing α) : Session × Except Fault α :=
  (s.collect d, d.result)

/-- Goes where a container has its children: to its layout, and into its class if that is a scope. -/
def enter (s : Session) (layout : Value) (cls : Option String) : Session :=
  { s with place := { s.place with layout, scope := s.place.scope ++ cls.toList } }

/-- Goes back to an earlier layout, and out of the innermost class if one was entered. -/
def leave (s : Session) (layout : Value) (cls : Option String) : Session :=
  { s with
    place := { s.place with
      layout, scope := if cls.isSome then s.place.scope.dropLast else s.place.scope } }

/-- Goes into a component. -/
def push (s : Session) (id : String) : Session := { s with place := s.place.refer id }

/-- Goes out of the innermost component. -/
def pop (s : Session) : Session :=
  { s with place := { s.place with within := s.place.within.dropLast } }

end Session

/-- A result in which nothing stands for a fault. -/
def caught (drawn : Except Fault (List Tree)) : Except Fault (List Tree) := .ok (drawn.toOption.getD [])

/-- How nodes are drawn in a session: the session afterwards and the markup, if the walk comes to an end. -/
abbrev Walker := Bool → Value → Session → Option (Session × Except Fault (List Tree))

/-- Draws nodes one after the other, up to the first that fails. -/
def walkNodesWith (walker : Walker) : List Value → Session → Option (Session × Except Fault (List Tree))
  | [], s => some (s, .ok [])
  | v :: vs, s => do
    match ← walker false v s with
    | (t, .error f) => return (t, .error f)
    | (t, .ok first) => do
      let (u, rest) ← walkNodesWith walker vs t
      return (u, rest.map (first ++ ·))

/-- Draws a frame or a group: declares its rule, enters it, draws the children and leaves it. -/
def walkContainerWith (walker : Walker) (isScope : Bool) (tag : String) (layout : Value)
    (style : Styled String) (ms : Members) (s : Session) :
    Option (Session × Except Fault (List Tree)) :=
  match style.result with
  | .error f => some (s, .error f)
  | .ok declarations => do
    let cls := s.context.vocabulary.className ms
    let scope := if isScope then some cls else none
    let s := s.collect (Drawing.declare s.place.scope cls declarations)
    let (t, inner) ← walkNodesWith walker ((children? ms).getD []) (s.enter layout scope)
    return (t.leave s.place.layout scope, inner.map fun ts => [.element tag [classAttribute cls] ts])

/-- Draws a reference: goes into the component, draws the copy and comes out again. -/
def walkReferenceWith (walker : Walker) (ms : Members) (s : Session) :
    Option (Session × Except Fault (List Tree)) :=
  let cx := s.context
  match component? cx.components cx.maxDepth s.place.within ms with
  | .error d => some (s, .ok (diagnostic cx.vocabulary.classStart d))
  | .ok (id, component) =>
    match resolve ms component with
    | .error f => some (s, .error f)
    | .ok resolved => do
      let (t, drawn) ← walker true (.obj resolved) (s.push id)
      return (t.pop, drawn)

/-- Draws a node of some kind. -/
def walkShownWith (walker : Walker) (isScope : Bool) (ms : Members) (kind : Kind) (s : Session) :
    Option (Session × Except Fault (List Tree)) :=
  let vocabulary := s.context.vocabulary
  match kind with
  | .frame =>
    walkContainerWith walker isScope (frameTag ((Members.get? "name" ms).getD (.str "")))
      (layoutOr "horizontal" ms) (frameStyle s.place ms) ms s
  | .group =>
    walkContainerWith walker isScope "div" (layoutOr "none" ms) (groupStyle s.place ms) ms s
  | .text => some (s.perform (text vocabulary s.place ms))
  | .rectangle => some (s.perform (shape vocabulary s.place "box-sizing: border-box;" ms))
  | .ellipse =>
    some (s.perform (shape vocabulary s.place "box-sizing: border-box; border-radius: 50%;" ms))
  | .line => some (s.perform (line vocabulary s.place ms))
  | .polygon => some (s.perform (picture vocabulary s.place ms (polygonOutline ms)))
  | .path => some (s.perform (picture vocabulary s.place ms fun _ _ => pathOutline ms))
  | .icon => some (s.perform (icon vocabulary s.place ms))
  | .reference => walkReferenceWith walker ms s

/-- Draws a node.  Faults of a node that is shown are caught here; only one in telling its kind escapes. -/
def walkWith (walker : Walker) : Walker := fun isScope v s =>
  match v with
  | .obj ms =>
    if isDisabled ms then some (s, .ok [])
    else match kind? ms with
      | .error f => some (s, .error f)
      | .ok none => some (s, .ok [])
      | .ok (some kind) =>
        if (Members.get "reusable" ms).isTruthy then some (s, .ok [])
        else do
          let (t, drawn) ← walkShownWith walker isScope ms kind s
          return (t, caught drawn)
  | _ => some (s, .ok [])

/-- Draws a node with nodes inside it and behind its references, down to some depth. -/
def walk : (depth : Nat) → Walker
  | 0 => fun _ _ _ => none
  | depth + 1 => walkWith (walk depth)

/-! ## going in and coming out -/

section

variable {α β : Type} (s : Session)

theorem collect_of_nothing {d : Drawing α} (rules : d.rules = []) (fonts : d.fonts = []) :
    s.collect d = s := by
  simp [Session.collect, rules, fonts]

theorem perform_pure (a : α) : s.perform (pure a : Drawing α) = (s, .ok a) := by
  rw [Session.perform, collect_of_nothing s rfl rfl]
  rfl

theorem perform_fail (f : Fault) : s.perform (.fail f : Drawing α) = (s, .error f) := by
  rw [Session.perform, collect_of_nothing s rfl rfl]
  rfl

/-- A drawing in two steps is performed step by step. -/
theorem perform_bind_of_ok {x : Drawing α} {a : α} (h : x.result = .ok a) (f : α → Drawing β) :
    s.perform (x >>= f) = (s.collect x).perform (f a) := by
  simp [Session.perform, Session.collect, bind, h]

/-- A drawing that fails in its first step keeps what that step has collected. -/
theorem perform_bind_of_error {x : Drawing α} {e : Fault} (h : x.result = .error e)
    (f : α → Drawing β) : s.perform (x >>= f) = (s.collect x, .error e) := by
  simp [Session.perform, Session.collect, bind, h]

/-- A drawing whose result is changed collects the same. -/
theorem perform_map (x : Drawing α) (f : α → β) :
    s.perform (do return f (← x)) = (s.collect x, x.result.map f) := by
  cases h : x.result with
  | error e => exact perform_bind_of_error s h _
  | ok a => rw [perform_bind_of_ok s h, perform_pure, Except.map]

/-- A drawing with nothing in place of a fault collects the same. -/
theorem perform_orNothing (d : Drawing (List Tree)) :
    s.perform d.orNothing = ((s.perform d).1, caught (s.perform d).2) := by
  have result : d.orNothing.result = caught d.result := by
    unfold Drawing.orNothing caught
    cases h : d.result <;> simp [h, Except.toOption]
  simp [Session.perform, Session.collect, result]

/-- Who leaves a container is where he was before, with what was collected inside. -/
theorem leave_collect_enter (layout : Value) (cls : Option String) (d : Drawing α) :
    ((s.enter layout cls).collect d).leave s.place.layout cls = s.collect d := by
  cases cls <;> simp [Session.enter, Session.leave, Session.collect]

/-- Who comes out of a component is where he was before, with what was collected inside. -/
theorem pop_collect_push (id : String) (d : Drawing α) :
    ((s.push id).collect d).pop = s.collect d := by
  simp [Session.push, Session.pop, Session.collect, Place.refer]

end

/-! ## walks and drawings -/

/-- A walker does with a node what its drawing says, and comes back. -/
def Call.IsWalkedBy (walker : Walker) (cx : Context) (c : Call) : Prop :=
  ∀ s : Session, s.context = cx → s.place = c.place →
    walker c.isScope c.value s = some (s.perform (c.drawing cx))

variable {walker : Walker} {cx : Context} {c : Call} {s : Session} {ms : Members}

/-- If each of some nodes is walked, they are walked in a row, up to the first that fails. -/
theorem walkNodesWith_eq {vs : List Value} (hc : s.context = cx)
    (each : ∀ v ∈ vs, Call.IsWalkedBy walker cx ⟨s.place, false, v⟩) :
    walkNodesWith walker vs s = some (s.perform (nodesWith (Call.drawing cx) s.place vs)) := by
  induction vs generalizing s with
  | nil => rw [walkNodesWith, nodesWith, perform_pure]
  | cons v vs ih =>
      have first := each v (List.mem_cons_self ..) s hc rfl
      rw [walkNodesWith, nodesWith, first]
      cases drawn : (Call.drawing cx ⟨s.place, false, v⟩).result with
      | error f =>
        rw [perform_bind_of_error s drawn, Session.perform, drawn]
        rfl
      | ok ts =>
        let t := s.collect (Call.drawing cx ⟨s.place, false, v⟩)
        have rest : walkNodesWith walker vs t = some (t.perform (nodesWith (Call.drawing cx) s.place vs)) :=
          ih hc fun w hw => each w (List.mem_cons_of_mem v hw)
        rw [perform_bind_of_ok s drawn, perform_map, Session.perform, drawn]
        simp only [Option.bind_eq_bind, Option.bind_some, Option.pure_def]
        rw [rest]
        rfl

/-- A container is walked if its children are: it goes in and comes back, and a fault inside leaves nothing. -/
theorem walkContainerWith_eq {isScope : Bool} {tag : String} {layout : Value} {style : Styled String}
    (hc : s.context = cx)
    (each : ∀ v ∈ (children? ms).getD [],
      Call.IsWalkedBy walker cx ⟨childPlace cx s.place isScope layout ms, false, v⟩) :
    (do let (t, drawn) ← walkContainerWith walker isScope tag layout style ms s; return (t, caught drawn)) =
      some (s.perform (containerWith (Call.drawing cx) cx s.place isScope tag layout style ms)) := by
  subst hc
  rw [walkContainerWith, containerWith_eq, perform_orNothing]
  cases own : style.result with
  | error f =>
    have styled : (liftM style : Drawing String).result = .error f := own
    rw [perform_bind_of_error s styled, collect_of_nothing s rfl rfl]
    rfl
  | ok declarations =>
    have styled : (liftM style : Drawing String).result = .ok declarations := own
    let cls := s.context.vocabulary.className ms
    let scope := if isScope then some cls else none
    let declared := s.collect (Drawing.declare s.place.scope cls declarations)
    have place : (declared.enter layout scope).place = childPlace s.context s.place isScope layout ms := by
      cases isScope <;> rfl
    have inner := walkNodesWith_eq (s := declared.enter layout scope) rfl (place ▸ each)
    rw [perform_bind_of_ok s styled, perform_bind_of_ok _ rfl, perform_map,
      collect_of_nothing s rfl rfl, ← place]
    simp only [Option.bind_eq_bind, Option.pure_def]
    rw [inner]
    exact congrArg (fun t => some (t, _)) (leave_collect_enter declared layout scope _)

/-- The walk through a reference goes into a component, and comes out again. -/
theorem walkReferenceWith_eq (hc : s.context = cx)
    (copy : ∀ id component resolved,
      component? cx.components cx.maxDepth s.place.within ms = .ok (id, component) →
      resolve ms component = .ok resolved →
      Call.IsWalkedBy walker cx ⟨s.place.refer id, true, .obj resolved⟩) :
    (do let (t, drawn) ← walkReferenceWith walker ms s; return (t, caught drawn)) =
      some (s.perform (referenceWith (Call.drawing cx) cx s.place ms)) := by
  subst hc
  rw [walkReferenceWith, referenceWith, perform_orNothing]
  dsimp only
  cases found : component? s.context.components s.context.maxDepth s.place.within ms with
  | error d =>
    dsimp only
    rw [perform_pure]
    rfl
  | ok r =>
    obtain ⟨id, component⟩ := r
    dsimp only
    cases stands : resolve ms component with
    | error f =>
      dsimp only
      rw [perform_fail]
      rfl
    | ok resolved =>
      -- the copy is drawn inside the component, and coming out leaves what it has collected
      have walked := copy id component resolved found stands (s.push id) rfl rfl
      dsimp only at walked ⊢
      rw [walked]
      simp [Session.perform, pop_collect_push]

/-- A node of some kind is walked if those are that its drawing starts. -/
theorem walkShownWith_eq {isScope : Bool} {kind : Kind} (hc : s.context = cx) (shown : IsShown ms kind)
    (walked : ∀ d, Calls cx ⟨s.place, isScope, .obj ms⟩ d → Call.IsWalkedBy walker cx d) :
    (do let (t, drawn) ← walkShownWith walker isScope ms kind s; return (t, caught drawn)) =
      some (s.perform (shownWith (Call.drawing cx) cx s.place isScope ms kind)) := by
  have children {layout : Value} (container : childLayout? ms kind = some layout) :
      ∀ v ∈ (children? ms).getD [],
        Call.IsWalkedBy walker cx ⟨childPlace cx s.place isScope layout ms, false, v⟩ := by
    intro v mem
    cases held : children? ms with
    | none => simp [held] at mem
    | some vs =>
      rw [held] at mem
      exact walked _ (.child shown container held mem)
  rw [walkShownWith.eq_def]
  cases kind with
  | frame => exact walkContainerWith_eq hc (children rfl)
  | group => exact walkContainerWith_eq hc (children rfl)
  | reference =>
    exact walkReferenceWith_eq hc fun id component resolved found stands =>
      walked _ (.copy shown found stands)
  | _ =>
    subst hc
    rw [shownWith, perform_orNothing]
    rfl

/-- A node is walked if the nodes are that its drawing starts. -/
theorem isWalkedBy_walkWith (walked : ∀ d, Calls cx c d → d.IsWalkedBy walker cx) :
    c.IsWalkedBy (walkWith walker) cx := by
  obtain ⟨place, isScope, v⟩ := c
  intro s hc hp
  dsimp only at hp ⊢
  subst hp
  rw [drawing_eq, walkWith.eq_def, nodeWith]
  cases v with
  | obj ms =>
    dsimp only
    split
    · exact congrArg some (perform_pure s []).symm
    · next enabled =>
      cases named : kind? ms with
      | error f => exact congrArg some (perform_fail s f).symm
      | ok kind? =>
        cases kind? with
        | none => exact congrArg some (perform_pure s []).symm
        | some kind =>
          dsimp only
          split
          · exact congrArg some (perform_pure s []).symm
          · next used =>
            exact walkShownWith_eq hc ⟨by simpa using enabled, named, by simpa using used⟩ walked
  | _ => exact congrArg some (perform_pure s []).symm

/-! ## the depth of a walk -/

/-- The drawing of a node starts only so many others. -/
theorem exists_calls (cx : Context) (c : Call) : ∃ ds : List Call, ∀ d, Calls cx c d → d ∈ ds := by
  obtain ⟨place, isScope, v⟩ := c
  cases v with
  | obj ms =>
    -- the layout depends on the kind, so the children are taken with both of them
    let children (layout : Value) : List Call :=
      ((children? ms).getD []).map fun v => ⟨childPlace cx place isScope layout ms, false, v⟩
    let copies : List Call :=
      match component? cx.components cx.maxDepth place.within ms with
      | .error _ => []
      | .ok (id, component) =>
        (resolve ms component).toOption.toList.map fun resolved => ⟨place.refer id, true, .obj resolved⟩
    refine ⟨children (layoutOr "horizontal" ms) ++ children (layoutOr "none" ms) ++ copies,
      fun d call => ?_⟩
    cases call with
    | @child _ _ _ kind layout v vs shown container held mem =>
        have own : ⟨childPlace cx place isScope layout ms, false, v⟩ ∈ children layout :=
          List.mem_map_of_mem (by rwa [held])
        cases kind with
        | frame =>
          cases container
          simp [own]
        | group =>
          cases container
          simp [own]
        | _ => cases container
    | @copy _ _ _ component resolved id shown found stands =>
        have own : ⟨place.refer id, true, .obj resolved⟩ ∈ copies := by
          simp [copies, found, stands, Except.toOption]
        simp [own]
  | _ => exact ⟨[], fun d call => by cases call⟩

/-- If each of some nodes is walked from some depth on, all are from the greatest of these. -/
theorem exists_depth {ds : List Call} {p : Nat → Call → Prop}
    (each : ∀ d ∈ ds, ∃ n, ∀ depth ≥ n, p depth d) : ∃ n, ∀ depth ≥ n, ∀ d ∈ ds, p depth d := by
  induction ds with
  | nil => exact ⟨0, fun _ _ _ mem => absurd mem List.not_mem_nil⟩
  | cons d ds ih =>
      obtain ⟨n, first⟩ := each d (List.mem_cons_self ..)
      obtain ⟨m, rest⟩ := ih fun d mem => each d (List.mem_cons_of_mem _ mem)
      refine ⟨max n m, fun depth deep e mem => ?_⟩
      obtain rfl | mem := List.mem_cons.1 mem
      · exact first depth (by omega)
      · exact rest depth (by omega) e mem

/-- From some depth on, every walk through a node comes to an end. -/
theorem exists_isWalkedBy (cx : Context) (c : Call) :
    ∃ n, ∀ depth ≥ n, c.IsWalkedBy (walk depth) cx := by
  induction c using (wellFounded_calls cx).induction with
  | h c ih =>
      obtain ⟨ds, all⟩ := exists_calls cx c
      have each : ∀ d ∈ ds, ∃ n, ∀ depth ≥ n, Calls cx c d → d.IsWalkedBy (walk depth) cx := by
        intro d _
        by_cases call : Calls cx c d
        · obtain ⟨n, walked⟩ := ih d call
          exact ⟨n, fun depth deep _ => walked depth deep⟩
        · exact ⟨0, fun _ _ called => absurd called call⟩
      obtain ⟨n, walked⟩ := exists_depth each
      refine ⟨n + 1, fun depth deep => ?_⟩
      obtain ⟨depth, rfl⟩ : ∃ k, depth = k + 1 := ⟨depth - 1, by omega⟩
      exact isWalkedBy_walkWith fun d call => walked depth (by omega) d (all d call) call

/-! ## one outcome for all depths -/

section

variable {w w' : Walker} {outcome : Session × Except Fault (List Tree)}

/-- A walker that does what another does wherever the other comes to an end. -/
def Walker.Extends (w' w : Walker) : Prop :=
  ∀ isScope v s outcome, w isScope v s = some outcome → w' isScope v s = some outcome

/-- A walker that goes further goes further with nodes in a row. -/
theorem Walker.Extends.walkNodesWith (further : w'.Extends w) {vs : List Value} {s : Session}
    (h : walkNodesWith w vs s = some outcome) : walkNodesWith w' vs s = some outcome := by
  induction vs generalizing s outcome with
  | nil => exact h
  | cons v vs ih =>
      obtain ⟨⟨t, drawn⟩, first, h⟩ := Option.bind_eq_some_iff.1 h
      refine Option.bind_eq_some_iff.2 ⟨(t, drawn), further _ _ _ _ first, ?_⟩
      cases drawn with
      | error f => exact h
      | ok ts =>
        obtain ⟨rest, later, h⟩ := Option.bind_eq_some_iff.1 h
        exact Option.bind_eq_some_iff.2 ⟨rest, ih later, h⟩

/-- A walker that goes further goes further with a container. -/
theorem Walker.Extends.walkContainerWith (further : w'.Extends w) {isScope : Bool} {tag : String}
    {layout : Value} {style : Styled String} {ms : Members} {s : Session}
    (h : walkContainerWith w isScope tag layout style ms s = some outcome) :
    walkContainerWith w' isScope tag layout style ms s = some outcome := by
  unfold Pen.walkContainerWith at h ⊢
  split at h
  · exact h
  · obtain ⟨inner, nodes, h⟩ := Option.bind_eq_some_iff.1 h
    exact Option.bind_eq_some_iff.2 ⟨inner, further.walkNodesWith nodes, h⟩

/-- A walker that goes further goes further with a reference. -/
theorem Walker.Extends.walkReferenceWith (further : w'.Extends w) {ms : Members} {s : Session}
    (h : walkReferenceWith w ms s = some outcome) : walkReferenceWith w' ms s = some outcome := by
  unfold Pen.walkReferenceWith at h ⊢
  dsimp only at h ⊢
  split at h
  · exact h
  · split at h
    · exact h
    · obtain ⟨copy, walked, h⟩ := Option.bind_eq_some_iff.1 h
      exact Option.bind_eq_some_iff.2 ⟨copy, further _ _ _ _ walked, h⟩

/-- A walker that goes further goes further with a node of some kind. -/
theorem Walker.Extends.walkShownWith (further : w'.Extends w) {isScope : Bool} {ms : Members}
    {kind : Kind} {s : Session} (h : walkShownWith w isScope ms kind s = some outcome) :
    walkShownWith w' isScope ms kind s = some outcome := by
  cases kind with
  | frame => exact further.walkContainerWith h
  | group => exact further.walkContainerWith h
  | reference => exact further.walkReferenceWith h
  | _ => exact h

/-- A walker that goes further goes further with any node. -/
theorem Walker.Extends.walkWith (further : w'.Extends w) : (walkWith w').Extends (walkWith w) := by
  intro isScope v s outcome h
  cases v with
  | obj ms =>
    unfold Pen.walkWith at h ⊢
    dsimp only at h ⊢
    split
    · next disabled => rwa [if_pos disabled] at h
    · next enabled =>
      rw [if_neg enabled] at h
      split at h
      · exact h
      · exact h
      · split
        · next reusable => rwa [if_pos reusable] at h
        · next used =>
          rw [if_neg used] at h
          obtain ⟨inner, shown, h⟩ := Option.bind_eq_some_iff.1 h
          exact Option.bind_eq_some_iff.2 ⟨inner, further.walkShownWith shown, h⟩
  | _ => exact h

/-- One more depth goes further, by induction on the depth. -/
theorem extends_walk (depth : Nat) : (walk (depth + 1)).Extends (walk depth) := by
  induction depth with
  | zero => exact fun _ _ _ _ h => absurd h (by simp [walk])
  | succ depth ih => exact ih.walkWith

/-- A walk that comes to an end has the same outcome at every greater depth. -/
theorem walk_of_le {depth more : Nat} {isScope : Bool} {v : Value} {s : Session} (deeper : depth ≤ more)
    (h : walk depth isScope v s = some outcome) : walk more isScope v s = some outcome := by
  induction deeper with
  | refl => exact h
  | step _ ih => exact extends_walk _ isScope v s outcome ih

end

/-! ## what a walk leaves behind -/

/-- Drawing in a session is performing the drawing of the node at its place. -/
theorem draw_eq_perform (isScope : Bool) (v : Value) (known : ∀ font ∈ s.fonts, font.IsKnown) :
    s.draw isScope v = s.perform (Call.drawing s.context ⟨s.place, isScope, v⟩) := by
  have fonts := joinFonts_eq known (knowsFonts_drawing s.context ⟨s.place, isScope, v⟩)
  unfold Session.draw Session.perform Session.collect
  rw [← fonts]
  rfl

/-- A walk that goes deep enough ends, whether in the markup of the node or in a fault that escapes it, and
no walk ends otherwise.  It gives the session back as it was: inside the same components and the same
classes, with the same layout, with its rules in front of the new ones, and with its fonts in front of those
of other families.  It draws what the session draws that nothing is entered in and left again. -/
theorem walk_gives_back (s : Session) (isScope : Bool) (v : Value) :
    ∃ n t drawn, (∀ depth ≥ n, walk depth isScope v s = some (t, drawn)) ∧
      (∀ depth outcome, walk depth isScope v s = some outcome → outcome = (t, drawn)) ∧
      t.context = s.context ∧
      t.place.within = s.place.within ∧ t.place.scope = s.place.scope ∧
      t.place.layout = s.place.layout ∧
      (∃ new, t.rules = s.rules ++ new) ∧
      (∃ new, t.fonts = s.fonts ++ new ∧ ∀ font ∈ new, ∀ old ∈ s.fonts, font.family ≠ old.family) ∧
      ((∀ font ∈ s.fonts, font.IsKnown) → s.draw isScope v = (t, drawn)) := by
  let c : Call := ⟨s.place, isScope, v⟩
  obtain ⟨n, walked⟩ := exists_isWalkedBy s.context c
  refine ⟨n, s.collect (c.drawing s.context), (c.drawing s.context).result,
    fun depth deep => walked depth deep s rfl rfl, fun depth outcome ends => ?_, rfl, rfl, rfl, rfl,
    ⟨_, rfl⟩, exists_foldl_addFont s.fonts _, draw_eq_perform isScope v⟩
  -- any walk that ends agrees with one that is as deep and deep enough
  have same := walked (max n depth) (by omega) s rfl rfl
  exact Option.some.inj ((walk_of_le (by omega) ends).symm.trans same)

/-- A session in the midst of a page: inside a component and a class, with a rule and a font. -/
def midPage : Session :=
  ⟨bareContext, ⟨["card"], ["pen-page"], .str "vertical"⟩, [⟨[], "pen-page", "margin: 0;"⟩],
    [⟨"lucide", "https://cdn.jsdelivr.net/npm/lucide-static@latest/font/lucide.min.css"⟩]⟩

/-- The frame whose child fails is taken back, and the child itself fails; either way the session is where
it was, and the rule of the frame stays. -/
theorem walk_gives_back_midPage :
    (∀ font ∈ midPage.fonts, font.IsKnown) ∧
      (∃ n t, (∀ depth ≥ n, walk depth true (.obj brokenFrame) midPage = some (t, .ok [])) ∧
        t.place = midPage.place ∧ midPage.draw true (.obj brokenFrame) = (t, .ok []) ∧
        t.rules.map Rule.selector = [".pen-page", ".pen-page .pen-f"]) ∧
      ∃ n t, (∀ depth ≥ n, walk depth false typedByList midPage = some (t, .error .wrongKind)) ∧
        t.place = midPage.place := by
  have known : ∀ font ∈ midPage.fonts, font.IsKnown := by
    intro font mem
    cases List.mem_singleton.1 mem
    rfl
  have failing (place : Place) :
      Call.drawing bareContext ⟨place, false, typedByList⟩ = .fail .wrongKind := by
    rw [drawing_eq]
    rfl
  have context : midPage.context = bareContext := rfl
  refine ⟨known, ?_, ?_⟩
  · have inner (place : Place) :
        nodesWith (Call.drawing bareContext) place [typedByList, .obj greeting] = .fail .wrongKind := by
      rw [nodesWith, failing]
      rfl
    have frame : Call.drawing bareContext ⟨midPage.place, true, .obj brokenFrame⟩ =
        ⟨[⟨["pen-page"], "pen-f", "box-sizing: border-box;display: flex;flex-direction: row;"⟩], [],
          .ok []⟩ := by
      have held : (children? brokenFrame).getD [] = [typedByList, .obj greeting] := rfl
      rw [drawing_eq, nodeWith_of_isShown rfl ⟨rfl, rfl, rfl⟩, shownWith, containerWith_eq, held, inner]
      rfl
    obtain ⟨n, t, drawn, walked, -, -, -, -, -, -, -, same⟩ :=
      walk_gives_back midPage true (.obj brokenFrame)
    have draws : midPage.draw true (.obj brokenFrame) = (t, drawn) := same known
    rw [draw_eq_perform _ _ known, context, frame] at draws
    cases draws
    exact ⟨n, _, walked, rfl, same known, rfl⟩
  · obtain ⟨n, t, drawn, walked, -, -, -, -, -, -, -, same⟩ := walk_gives_back midPage false typedByList
    have draws : midPage.draw false typedByList = (t, drawn) := same known
    rw [draw_eq_perform _ _ known, context, failing] at draws
    cases draws
    exact ⟨n, _, walked, rfl⟩

end Pagewright.Pen
