import Pagewright.Proofs.Pen.Failure
import Pagewright.Proofs.Text.Lines

/-!
# Pagewright.Proofs.Pen.Chain

The classes that a selector begins with.  The rules of a node begin with the classes around the node, and
the rules of a scope with the class of the scope behind them: that of a page, or of the copy that a
reference stands for.  The copy has the id of the reference, whatever component it is made from and however
its nodes are overridden, so references with different classes have no selector in common.
-/

namespace Pagewright.Pen

open Markup

/-! ## selectors -/

/-- The classes of a selector, from the outermost to the rule's own. -/
def Rule.classes (r : Rule) : List String := r.scope ++ [r.cls]

/-- The text of a chain of classes, as selectors have it. -/
def chainText (chain : List String) : String := String.intercalate " " (chain.map classSelector)

/-- A rule whose selector begins with a chain of classes. -/
structure Rule.BeginsWith (r : Rule) (chain : List String) : Prop where
  classes : chain <+: r.classes
  text : (chainText chain).toList <+: r.selector.toList

/-- A longer chain begins with the text of a shorter one. -/
theorem chainText_isPrefix (chain more : List String) :
    (chainText chain).toList <+: (chainText (chain ++ more)).toList := by
  unfold chainText
  rw [List.map_append]
  exact intercalate_isPrefix ..

/-- It is enough to compare classes: the selector is their chain. -/
theorem Rule.BeginsWith.of_classes {r : Rule} {chain : List String} (h : chain <+: r.classes) :
    r.BeginsWith chain := by
  obtain ⟨more, eq⟩ := h
  refine ⟨⟨more, eq⟩, ?_⟩
  have text := chainText_isPrefix chain more
  rw [eq] at text
  exact text

/-! ## what overrides leave alone -/

section

variable {isWanted : Members → Bool} {steps : List Nat} {spot : Spot} {root changed : Members}
  {key : String}

theorem findAmong_ne_nil {index : Nat} {vs : List Value} (h : findAmong isWanted index vs = some steps) :
    steps ≠ [] := by
  induction vs generalizing index with
  | nil => simp [findAmong] at h
  | cons v vs ih =>
      cases v with
      | obj ms =>
        unfold findAmong at h
        split at h
        · cases h
          simp
        · split at h
          · cases h
            simp
          · exact ih h
      | _ =>
        unfold findAmong at h
        exact ih h

theorem findBelow_ne_nil (h : findBelow isWanted root = some steps) : steps ≠ [] := by
  unfold findBelow at h
  split at h
  · exact findAmong_ne_nil h
  · cases h

theorem followPath_ne_nil {ids : List String} (h : followPath ids root = .ok (some spot)) :
    spot.steps ≠ [] := by
  cases ids with
  | nil => cases h
  | cons id ids =>
      unfold followPath at h
      split at h
      · cases h
      · next index child found =>
        split at h
        · cases h
          simp
        · cases ends : endsPath child with
          | error e =>
            rw [ends] at h
            cases h
          | ok isEnd =>
            rw [ends] at h
            cases isEnd with
            | true =>
              cases h
              simp
            | false =>
              cases below : followPath ids child with
              | error e =>
                rw [below] at h
                cases h
              | ok inner =>
                rw [below] at h
                cases inner with
                | none => cases h
                | some inner =>
                  cases h
                  simp [Spot.below]

/-- An override applies below the root, never to the root itself. -/
theorem locate_ne_nil (h : locate root key = .ok (some spot)) : spot.steps ≠ [] := by
  unfold locate at h
  split at h
  · exact followPath_ne_nil h
  · cases found : findBelow (hasId key) root with
    | none =>
      rw [found] at h
      cases h
    | some steps =>
      rw [found] at h
      cases h
      exact findBelow_ne_nil found

/-- A change below a node changes no member of it but its children. -/
theorem get_modifyAt (change : Members → Members) (nonempty : steps ≠ []) (other : key ≠ "children") :
    (modifyAt change steps root).get key = root.get key := by
  cases steps with
  | nil => exact absurd rfl nonempty
  | cons i steps =>
      unfold modifyAt
      split
      · unfold Members.get
        rw [Members.get?_set_of_ne other]
      · rfl

/-- So an override changes no other member of the root. -/
theorem get_overrideOne {path : String} {override : Value} (other : key ≠ "children")
    (h : overrideOne root path override = .ok changed) : changed.get key = root.get key := by
  unfold overrideOne at h
  cases override with
  | obj ms =>
      cases found : locate root path with
      | error e =>
        rw [found] at h
        cases h
      | ok spot? =>
        rw [found] at h
        cases spot? with
        | none =>
          cases h
          rfl
        | some spot =>
          cases h
          exact get_modifyAt _ (locate_ne_nil found) other
  | _ =>
      cases h
      rfl

/-- Overrides change no member of the root but its children. -/
theorem get_overrideAll {overrides : Members} {fault : Option Fault} (other : key ≠ "children")
    (h : overrideAll root overrides = (changed, fault)) : changed.get key = root.get key := by
  induction overrides generalizing root with
  | nil =>
      cases h
      rfl
  | cons m rest ih =>
      obtain ⟨path, override⟩ := m
      unfold overrideAll at h
      split at h
      · next next one => rw [ih h, get_overrideOne other one]
      · cases h
        rfl

end

/-! ## the id of a copy -/

section

variable {ms component resolved : Members} {id : Value}

/-- The id of a copy is never empty: it is the reference's own, or made of the name of the component. -/
theorem isTruthy_instanceId (h : instanceId ms = .ok id) : id.isTruthy = true := by
  unfold instanceId at h
  dsimp only at h
  split at h
  · next truthy =>
    cases h
    exact truthy
  · split at h
    · cases h
      simp [Value.isTruthy]
    · cases h

/-- What a reference stands for has the id that the reference gives it. -/
theorem get_id_of_resolve (h : resolve ms component = .ok resolved) :
    instanceId ms = .ok (resolved.get "id") := by
  unfold resolve at h
  cases given : instanceId ms with
  | error e =>
      rw [given] at h
      cases h
  | ok id =>
      rw [given] at h
      simp only [bind, Except.bind] at h
      have own (merged : Members) :
          Members.get "id" ((merged.set "id" id).set "reusable" (.bool false)) = id := by
        unfold Members.get
        rw [Members.get?_set_of_ne (by decide), Members.get?_set_self]
        rfl
      split at h
      · split at h
        · next changed all =>
          cases h
          rw [get_overrideAll (by decide) all, own]
        · cases h
      · cases h
        rw [own]

end

/-! ## chains of classes around a node -/

/-- The class of a node with an id. -/
def Vocabulary.idClass (vocabulary : Vocabulary) (id : Value) : String :=
  vocabulary.classStart ++ classText (id.orElse (.str "unknown")).display

/-- The id of what stands in the place of a node: the node's own, or the one that a reference gives its
copy. -/
def standingId (ms : Members) : Except Fault Value :=
  match kind? ms with
  | .ok (some .reference) => instanceId ms
  | _ => .ok (ms.get "id")

section

variable {cx : Context} {c d : Call} {r : Rule} {ms : Members} {kind : Kind} {place : Place}

/-- The classes around a node are around all nodes that are drawn with it. -/
theorem scope_isPrefix_of_reflTransGen (reached : Relation.ReflTransGen (Calls cx) c d) :
    c.place.scope <+: d.place.scope := by
  induction reached with
  | refl => exact List.prefix_refl _
  | tail _ call ih =>
      cases call with
      | child => exact ih.trans (List.prefix_append ..)
      | copy => exact ih

/-- So a rule stands inside the classes around the node that is drawn. -/
theorem scope_isPrefix_of_mem_rules (h : r ∈ (c.drawing cx).rules) : c.place.scope <+: r.scope := by
  obtain ⟨d, reached, ms, kind, -, -, own⟩ := exists_isOwnRule h
  exact own.scope ▸ scope_isPrefix_of_reflTransGen reached

/-- The rules of the children of a scope stand inside its class. -/
theorem scope_isPrefix_of_mem_nodes {layout : Value} {cls : String} {vs : List Value}
    (h : r ∈ (nodes cx (place.inside layout [cls]) vs).rules) : place.scope ++ [cls] <+: r.scope := by
  rw [nodes_eq] at h
  obtain ⟨v, -, own⟩ := mem_rules_nodesWith h
  exact scope_isPrefix_of_mem_rules own

/-- A node that is no reference stands under its own id. -/
theorem standingId_of_ne_reference (shown : IsShown ms kind) (own : kind ≠ .reference) :
    standingId ms = .ok (ms.get "id") := by
  unfold standingId
  rw [shown.kind]
  split
  · next reference =>
    cases reference
    exact absurd rfl own
  · rfl

/-- A copy stands under the id of its reference, also if it is a reference itself. -/
theorem standingId_resolve {component resolved : Members} (shown : IsShown ms .reference)
    (stands : resolve ms component = .ok resolved) : standingId resolved = standingId ms := by
  have given := get_id_of_resolve stands
  have truthy := isTruthy_instanceId given
  have same : standingId ms = .ok (resolved.get "id") := by
    rw [standingId, shown.kind]
    exact given
  rw [same]
  unfold standingId
  split
  · simp [instanceId, truthy]
  · rfl

/-- A node whose rules are held together by a class: a scope, or a reference, whose copy is one. -/
def Call.IsHeld (c : Call) : Prop :=
  c.isScope = true ∨ ∃ ms, c.value = .obj ms ∧ IsShown ms .reference

/-- The rules of a node that is held together begin with the class of what stands in its place. -/
theorem beginsWith_of_isHeld (held : c.IsHeld) (h : r ∈ (c.drawing cx).rules) :
    ∃ ms id, c.value = .obj ms ∧ standingId ms = .ok id ∧
      r.BeginsWith (c.place.scope ++ [cx.vocabulary.idClass id]) := by
  induction c using (wellFounded_calls cx).induction with
  | h c ih =>
      rw [drawing_eq] at h
      obtain ⟨ms, kind, hv, shown⟩ | ⟨nothing, none, eq⟩ := isShown_or_nodeWith_eq cx c
      · obtain ⟨place, isScope, v⟩ := c
        dsimp only at hv
        subst hv
        -- a reference leaves its place to the copy; any other node that is held is a scope itself
        by_cases reference : kind = .reference
        · subst reference
          rw [nodeWith_of_isShown rfl shown] at h
          obtain ⟨id, component, resolved, found, stands, later⟩ := mem_rules_referenceWith h
          obtain ⟨_, standing, eq, given, begins⟩ := ih _ (.copy shown found stands) (.inl rfl) later
          cases eq
          exact ⟨ms, standing, rfl, standingId_resolve shown stands ▸ given, begins⟩
        · have scope : isScope = true := by
            obtain scope | ⟨_, eq, other⟩ := held
            · exact scope
            · cases eq
              exact absurd (shown.unique other) reference
          subst scope
          refine ⟨ms, _, rfl, standingId_of_ne_reference shown reference, .of_classes ?_⟩
          obtain ⟨_, _, eq, _, own⟩ | ⟨d, call, later⟩ := mem_rules_nodeWith h
          · cases eq
            rw [Rule.classes, own.scope, own.cls]
            exact List.prefix_refl _
          · cases call with
            | child _ container children mem =>
              exact (scope_isPrefix_of_mem_rules later).trans (List.prefix_append ..)
            | copy other => exact absurd (shown.unique other) reference
      · rw [eq, none] at h
        cases h

theorem Drawing.rules_map {α β : Type} (x : Drawing α) (f : α → β) :
    (do return f (← x) : Drawing β).rules = x.rules := by
  cases h : x.result with
  | error e => exact Drawing.rules_bind_of_error h _
  | ok a =>
      rw [Drawing.rules_bind_of_ok h]
      exact List.append_nil _

/-- A container that is a scope has its own rule, and behind it the rules of its children. -/
theorem rules_container {layout : Value} {declarations : String} {vs : List Value} (shown : IsShown ms kind)
    (container : childLayout? ms kind = some layout) (held : children? ms = some vs)
    (own : (ownStyle place ms kind).result = .ok declarations) :
    (node cx place true (.obj ms)).rules =
      (Drawing.declare place.scope (cx.vocabulary.className ms) declarations).rules ++
        (nodes cx (place.inside layout [cx.vocabulary.className ms]) vs).rules := by
  have styled : (liftM (ownStyle place ms kind) : Drawing String).result = .ok declarations := own
  have drawn : node cx place true (.obj ms) = nodeWith (Call.drawing cx) cx ⟨place, true, .obj ms⟩ :=
    drawing_eq cx ⟨place, true, .obj ms⟩
  rw [drawn, nodeWith_of_isShown rfl shown, shownWith_of_childLayout? _ _ container, containerWith_eq,
    Drawing.rules_orNothing, Drawing.rules_bind_of_ok styled, Drawing.rules_bind_of_ok rfl,
    Drawing.rules_map, held, nodes_eq]
  rfl

end

/-! ## rules inside their scopes -/

/-- The rules of nodes that stand inside the same classes, with different classes of their own, differ in
the class behind those. -/
theorem ne_of_beginsWith {q r : Rule} {chain : List String} {cls other : String} (ne : cls ≠ other)
    (hq : q.BeginsWith (chain ++ [cls])) (hr : r.BeginsWith (chain ++ [other])) :
    q.classes[chain.length]? ≠ r.classes[chain.length]? := by
  obtain ⟨more, eq⟩ := hq.classes
  obtain ⟨rest, eq'⟩ := hr.classes
  rw [← eq, ← eq']
  simpa using ne

/-- Rules stay inside their scopes.  Those that a node adds to a session begin with the classes around the
node.  Those that are added while the children of a scope are drawn begin with these and the class of the
scope.  Those of a page of a document begin with the class made from its id, where a reference counts with
the id that its copy has.  Those of two references inside the same classes, but with different classes of
their own, differ in the class behind those around them. -/
theorem rules_stay_in_scopes (cx : Context) :
    (∀ (s : Session) isScope v, ∃ new, (s.draw isScope v).1.rules = s.rules ++ new ∧
      ∀ r ∈ new, r.BeginsWith s.place.scope) ∧
    (∀ place ms kind layout declarations vs, IsShown ms kind → childLayout? ms kind = some layout →
      children? ms = some vs → (ownStyle place ms kind).result = .ok declarations →
      (node cx place true (.obj ms)).rules =
          (Drawing.declare place.scope (cx.vocabulary.className ms) declarations).rules ++
            (nodes cx (place.inside layout [cx.vocabulary.className ms]) vs).rules ∧
        ∀ r ∈ (nodes cx (place.inside layout [cx.vocabulary.className ms]) vs).rules,
          place.scope ++ [cx.vocabulary.className ms] <+: r.scope ∧
            r.BeginsWith (place.scope ++ [cx.vocabulary.className ms])) ∧
    (∀ ms component resolved, IsShown ms .reference → resolve ms component = .ok resolved →
      standingId ms = .ok (resolved.get "id")) ∧
    (∀ (d : Document) session trees,
      (Session.start cx (.str "vertical")).drawAll true d.pages = .ok (session, trees) →
      session.rules = d.pages.flatMap (fun v => (node cx pagePlace true v).rules) ∧
        ∀ v ∈ d.pages, ∀ r ∈ (node cx pagePlace true v).rules, ∃ ms id, v = .obj ms ∧
          standingId ms = .ok id ∧ r.BeginsWith [cx.vocabulary.idClass id]) ∧
    ∀ place other isScope isScope' ms ns id id', IsShown ms .reference → IsShown ns .reference →
      place.scope = other.scope → standingId ms = .ok id → standingId ns = .ok id' →
      cx.vocabulary.idClass id ≠ cx.vocabulary.idClass id' →
      ∀ q ∈ (node cx place isScope (.obj ms)).rules, ∀ r ∈ (node cx other isScope' (.obj ns)).rules,
        q.BeginsWith (place.scope ++ [cx.vocabulary.idClass id]) ∧
        r.BeginsWith (place.scope ++ [cx.vocabulary.idClass id']) ∧
          q.classes[place.scope.length]? ≠ r.classes[place.scope.length]? := by
  refine ⟨?_, ?_, ?_, ?_, ?_⟩
  · intro s isScope v
    refine ⟨_, rfl, fun r h => .of_classes ?_⟩
    have inside : s.place.scope <+: r.scope :=
      scope_isPrefix_of_mem_rules (c := ⟨s.place, isScope, v⟩) h
    exact inside.trans (List.prefix_append ..)
  · intro place ms kind layout declarations vs shown container held own
    refine ⟨rules_container shown container held own, fun r h => ?_⟩
    have inside := scope_isPrefix_of_mem_nodes h
    exact ⟨inside, .of_classes (inside.trans (List.prefix_append ..))⟩
  · intro ms component resolved shown stands
    rw [standingId, shown.kind]
    exact get_id_of_resolve stands
  · intro d session trees drawn
    refine ⟨rules_drawAll drawn, fun v mem r h => ?_⟩
    exact beginsWith_of_isHeld (c := ⟨pagePlace, true, v⟩) (.inl rfl) h
  · intro place other isScope isScope' ms ns id id' hm hn same given given' ne q hq r hr
    -- the two classes stand right behind the classes around, which the references share
    obtain ⟨_, _, eq, standing, hq⟩ :=
      beginsWith_of_isHeld (c := ⟨place, isScope, .obj ms⟩) (.inr ⟨ms, rfl, hm⟩) hq
    cases eq
    cases standing.symm.trans given
    obtain ⟨_, _, eq, standing, hr⟩ :=
      beginsWith_of_isHeld (c := ⟨other, isScope', .obj ns⟩) (.inr ⟨ns, rfl, hn⟩) hr
    cases eq
    cases standing.symm.trans given'
    dsimp only at hq hr
    rw [← same] at hr
    exact ⟨hq, hr, ne_of_beginsWith ne hq hr⟩

/-- A component: a frame with a text. -/
def cardComponent : Members :=
  [ ("type", .str "frame"), ("id", .str "card"), ("reusable", .bool true),
    ("children", .list [.obj greeting]) ]

/-- A component that stands for the other one. -/
def deckComponent : Members :=
  [ ("type", .str "ref"), ("ref", .str "card"), ("id", .str "deck"), ("reusable", .bool true) ]

/-- A reference to a component, with an id of its own or without one. -/
def instanceOf (component : String) (id : Option String) : Members :=
  [("type", .str "ref"), ("ref", .str component)] ++ (id.map fun id => ("id", .str id)).toList

/-- A document with the components and two references, one of which has no id. -/
def cardDocument : Document :=
  ⟨[.obj cardComponent, .obj deckComponent, .obj (instanceOf "card" (some "a")),
    .obj (instanceOf "deck" none)], []⟩

/-- What the document is drawn with. -/
def cardContext : Context := ⟨[("card", cardComponent), ("deck", deckComponent)], ⟨[], "pen-"⟩, 10⟩

/-- The drawing of a copy of the frame, with the class of the copy. -/
def cardDrawing (cls : String) : Drawing (List Tree) where
  rules :=
    [ ⟨[], cls, "box-sizing: border-box;display: flex;flex-direction: row;"⟩,
      ⟨[cls], "pen-t", "box-sizing: border-box; margin: 0;"⟩ ]
  fonts := []
  result :=
    .ok [.element "div" [classAttribute cls] [.element "p" [classAttribute "pen-t"] [.text "Hi"]]]

/-- The copies have the same text, with selectors that have no class in common but that of the text. -/
theorem rules_stay_in_scopes_cards :
    ∃ session trees,
      (Session.start cardContext (.str "vertical")).drawAll true cardDocument.pages = .ok (session, trees) ∧
      session.rules.map Rule.selector =
        [".pen-a", ".pen-a .pen-t", ".pen-deck-inst", ".pen-deck-inst .pen-t"] ∧
      (∀ v ∈ cardDocument.pages, ∀ r ∈ (node cardContext pagePlace true v).rules, ∃ ms id,
        v = .obj ms ∧ standingId ms = .ok id ∧ r.BeginsWith [cardContext.vocabulary.idClass id]) ∧
      ∀ q ∈ (node cardContext pagePlace true (.obj (instanceOf "card" (some "a")))).rules,
        ∀ r ∈ (node cardContext pagePlace true (.obj (instanceOf "deck" none))).rules,
          q.classes[0]? ≠ r.classes[0]? := by
  have step : Call.drawing cardContext = nodeWith (Call.drawing cardContext) cardContext :=
    funext (drawing_eq cardContext)
  have drawn (v : Value) :
      node cardContext pagePlace true v = Call.drawing cardContext ⟨pagePlace, true, v⟩ := rfl
  -- the copy of the second component is a reference, so its drawing takes a step more
  have first : node cardContext pagePlace true (.obj (instanceOf "card" (some "a"))) =
      cardDrawing "pen-a" := by
    rw [drawn, step, step, step]
    rfl
  have second : node cardContext pagePlace true (.obj (instanceOf "deck" none)) =
      cardDrawing "pen-deck-inst" := by
    rw [drawn, step, step, step, step]
    rfl
  obtain ⟨-, -, -, pages, apart⟩ := rules_stay_in_scopes cardContext
  have two : cardDocument.pages =
      [.obj (instanceOf "card" (some "a")), .obj (instanceOf "deck" none)] := rfl
  have all : ∃ session trees,
      (Session.start cardContext (.str "vertical")).drawAll true cardDocument.pages =
        .ok (session, trees) := by
    have place : (⟨[], [], .str "vertical"⟩ : Place) = pagePlace := rfl
    rw [two]
    simp only [Session.drawAll, Session.draw, Session.start, place, first, cardDrawing]
    rw [second]
    exact ⟨_, _, rfl⟩
  obtain ⟨session, trees, all⟩ := all
  obtain ⟨rules, each⟩ := pages cardDocument session trees all
  refine ⟨session, trees, all, ?_, each, fun q hq r hr => ?_⟩
  · rw [rules, two, List.flatMap_cons, List.flatMap_cons, first, second]
    rfl
  · exact (apart pagePlace pagePlace true true _ _ (.str "a") (.str "deck-inst") ⟨rfl, rfl, rfl⟩
      ⟨rfl, rfl, rfl⟩ rfl rfl rfl (by decide) q hq r hr).2.2

end Pagewright.Pen
