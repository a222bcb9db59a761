import Pagewright.Pen.Session
import Pagewright.Proofs.Pen.Calls
import Pagewright.Proofs.Pen.Declarations

/-!
# Pagewright.Proofs.Pen.Rules

The rules of a drawing.  A node has at most one rule of its own, with its style for its class; all other
rules are those of the nodes that are drawn with it.  So every rule of a drawing is the own rule of a node
that is reached from the first by drawings that start each other.
-/

namespace Pagewright.Pen

open Markup

/-! ## what is collected -/

section

variable {α β : Type} {r : Rule}

/-- The rules of a drawing in two steps come from the first step, or from the second if the first succeeds. -/
theorem mem_rules_bind {x : Drawing α} {f : α → Drawing β} (h : r ∈ (x >>= f).rules) :
    r ∈ x.rules ∨ ∃ a, x.result = .ok a ∧ r ∈ (f a).rules := by
  cases eq : x.result with
  | error e =>
      rw [Drawing.rules_bind_of_error eq] at h
      exact .inl h
  | ok a =>
      rw [Drawing.rules_bind_of_ok eq, List.mem_append] at h
      exact h.imp_right fun later => ⟨a, rfl, later⟩

theorem Styled.result_bind_of_ok {x : Styled α} {a : α} (h : x.result = .ok a) (f : α → Styled β) :
    (x >>= f).result = (f a).result := by
  simp only [bind, h]

/-- A style collects no rules. -/
theorem mem_rules_bind_styled {x : Styled α} {f : α → Drawing β}
    (h : r ∈ ((liftM x : Drawing α) >>= f).rules) : ∃ a, x.result = .ok a ∧ r ∈ (f a).rules := by
  obtain none | later := mem_rules_bind h
  · cases none
  · exact later

/-- A rule for a class at a place, with a style. -/
structure Declares (place : Place) (cls : String) (style : Styled String) (r : Rule) : Prop where
  scope : r.scope = place.scope
  cls : r.cls = cls
  declarations : style.result = .ok r.declarations

/-- A drawing that begins with a declared rule has this rule, if its style comes about, and those of the rest.
-/
theorem mem_rules_declare {place : Place} {cls : String} {style : Styled String} {rest : Drawing β}
    (h : r ∈ (do Drawing.declare place.scope cls (← style); rest : Drawing β).rules) :
    Declares place cls style r ∨ r ∈ rest.rules := by
  obtain ⟨declarations, eq, h⟩ := mem_rules_bind_styled h
  obtain own | ⟨_, -, later⟩ := mem_rules_bind h
  · unfold Drawing.declare at own
    dsimp only at own
    split at own
    · cases own
    · cases List.mem_singleton.1 own
      exact .inl ⟨rfl, rfl, eq⟩
  · exact .inr later

end

/-! ## nodes without children -/

section

variable {vocabulary : Vocabulary} {place : Place} {ms : Members} {r : Rule}

/-- A text declares one rule, with its own style. -/
theorem declares_of_mem_text (h : r ∈ (text vocabulary place ms).rules) :
    Declares place (vocabulary.className ms) (textStyle place ms) r := by
  obtain own | h := mem_rules_declare h
  · exact own
  · obtain ⟨content, -, h⟩ := mem_rules_bind_styled h
    split at h
    · cases h
    · obtain ⟨tag, -, h⟩ := mem_rules_bind_styled h
      cases h

/-- A shape declares one rule, with its own style. -/
theorem declares_of_mem_shape {declarations : String}
    (h : r ∈ (shape vocabulary place declarations ms).rules) :
    Declares place (vocabulary.className ms) (shapeStyle declarations place ms) r := by
  obtain own | h := mem_rules_declare h
  · exact own
  · cases h

/-- A line declares one rule, with its own style. -/
theorem declares_of_mem_line (h : r ∈ (line vocabulary place ms).rules) :
    Declares place (vocabulary.className ms) (lineStyle place ms) r := by
  obtain own | h := mem_rules_declare h
  · exact own
  · cases h

/-- A picture declares one rule, with its own style; its outline declares none. -/
theorem declares_of_mem_picture {outline : Binary64 → Binary64 → Styled Tree}
    (h : r ∈ (picture vocabulary place ms outline).rules) :
    Declares place (vocabulary.className ms) (pictureStyle place ms) r := by
  obtain ⟨width, -, h⟩ := mem_rules_bind_styled h
  obtain ⟨height, -, h⟩ := mem_rules_bind_styled h
  obtain ⟨outline, -, h⟩ := mem_rules_bind_styled h
  obtain own | h := mem_rules_declare h
  · exact own
  · cases h

/-- The style of an icon in its own size. -/
def sizedIconStyle (place : Place) (ms : Members) : Styled String := do
  let width ← numberOr 24 (ms.get "width")
  let height ← numberOr 24 (ms.get "height")
  iconStyle place ms width height

/-- An icon declares one rule, with its style in the size that it is drawn in. -/
theorem declares_of_mem_icon (h : r ∈ (icon vocabulary place ms).rules) :
    Declares place (vocabulary.className ms) (sizedIconStyle place ms) r := by
  obtain ⟨name, -, h⟩ := mem_rules_bind_styled h
  obtain ⟨width, hw, h⟩ := mem_rules_bind_styled h
  obtain ⟨height, hh, h⟩ := mem_rules_bind_styled h
  obtain none | ⟨_, -, h⟩ := mem_rules_bind h
  · cases none
  obtain own | h := mem_rules_declare h
  · refine ⟨own.scope, own.cls, ?_⟩
    rw [sizedIconStyle, Styled.result_bind_of_ok hw, Styled.result_bind_of_ok hh]
    exact own.declarations
  · cases h

end

/-! ## own rules -/

/-- The style of a node of some kind. -/
def ownStyle (place : Place) (ms : Members) : Kind → Styled String
  | .frame => frameStyle place ms
  | .group => groupStyle place ms
  | .text => textStyle place ms
  | .rectangle => shapeStyle "box-sizing: border-box;" place ms
  | .ellipse => shapeStyle "box-sizing: border-box; border-radius: 50%;" place ms
  | .line => lineStyle place ms
  | .polygon => pictureStyle place ms
  | .path => pictureStyle place ms
  | .icon => sizedIconStyle place ms
  | .reference => return ""

/-- The rule of a node that is shown: its class, inside the classes around it, and its style. -/
def IsOwnRule (cx : Context) (c : Call) (r : Rule) : Prop :=
  ∃ ms kind, c.value = .obj ms ∧ IsShown ms kind ∧
    Declares c.place (cx.vocabulary.className ms) (ownStyle c.place ms kind) r

variable {cx : Context} {draw : Call → Drawing (List Tree)} {c : Call} {r : Rule}

/-- The rules of nodes in a row are those of the nodes. -/
theorem mem_rules_nodesWith {place : Place} {vs : List Value}
    (h : r ∈ (nodesWith draw place vs).rules) : ∃ v ∈ vs, r ∈ (draw ⟨place, false, v⟩).rules := by
  induction vs with
  | nil => cases h
  | cons v vs ih =>
      obtain first | ⟨_, -, h⟩ := mem_rules_bind h
      · exact ⟨v, List.mem_cons_self .., first⟩
      · obtain rest | ⟨_, -, h⟩ := mem_rules_bind h
        · obtain ⟨w, mem, later⟩ := ih rest
          exact ⟨w, List.mem_cons_of_mem v mem, later⟩
        · cases h

/-- The rules of a container are its own and those of its children. -/
theorem mem_rules_containerWith {place : Place} {isScope : Bool} {tag : String} {layout : Value}
    {style : Styled String} {ms : Members}
    (h : r ∈ (containerWith draw cx place isScope tag layout style ms).rules) :
    Declares place (cx.vocabulary.className ms) style r ∨
      ∃ vs, children? ms = some vs ∧
        ∃ v ∈ vs, r ∈ (draw ⟨childPlace cx place isScope layout ms, false, v⟩).rules := by
  rw [containerWith, Drawing.rules_orNothing] at h
  obtain own | h := mem_rules_declare h
  · exact .inl own
  · extract_lets finish at h
    split at h
    · next vs held =>
      obtain inner | ⟨_, -, h⟩ := mem_rules_bind h
      · exact .inr ⟨vs, held, mem_rules_nodesWith inner⟩
      · cases h
    · cases h

/-- The rules of a reference are those of its copy. -/
theorem mem_rules_referenceWith {place : Place} {ms : Members}
    (h : r ∈ (referenceWith draw cx place ms).rules) :
    ∃ id component resolved,
      component? cx.components cx.maxDepth place.within ms = .ok (id, component) ∧
        resolve ms component = .ok resolved ∧
          r ∈ (draw ⟨place.refer id, true, .obj resolved⟩).rules := by
  rw [referenceWith, Drawing.rules_orNothing] at h
  split at h
  · cases h
  · next id component found =>
    split at h
    · cases h
    · next resolved stands => exact ⟨id, component, resolved, found, stands, h⟩

/-- A rule of a drawing is the node's own, or one of a drawing that it starts. -/
theorem mem_rules_nodeWith (h : r ∈ (nodeWith draw cx c).rules) :
    IsOwnRule cx c r ∨ ∃ d, Calls cx c d ∧ r ∈ (draw d).rules := by
  obtain ⟨ms, kind, hv, shown⟩ | ⟨nothing, none, eq⟩ := isShown_or_nodeWith_eq cx c
  · obtain ⟨place, isScope, v⟩ := c
    cases hv
    rw [nodeWith_of_isShown rfl shown] at h
    have own (declares : Declares place (cx.vocabulary.className ms) (ownStyle place ms kind) r) :
        IsOwnRule cx ⟨place, isScope, .obj ms⟩ r := ⟨ms, kind, rfl, shown, declares⟩
    cases kind with
    | frame =>
      obtain declares | ⟨vs, held, v, mem, later⟩ := mem_rules_containerWith h
      · exact .inl (own declares)
      · exact .inr ⟨_, .child shown rfl held mem, later⟩
    | group =>
      obtain declares | ⟨vs, held, v, mem, later⟩ := mem_rules_containerWith h
      · exact .inl (own declares)
      · exact .inr ⟨_, .child shown rfl held mem, later⟩
    | reference =>
      obtain ⟨id, component, resolved, found, stands, later⟩ := mem_rules_referenceWith h
      exact .inr ⟨_, .copy shown found stands, later⟩
    | text => exact .inl (own (declares_of_mem_text (by simpa [shownWith] using h)))
    | rectangle => exact .inl (own (declares_of_mem_shape (by simpa [shownWith] using h)))
    | ellipse => exact .inl (own (declares_of_mem_shape (by simpa [shownWith] using h)))
    | line => exact .inl (own (declares_of_mem_line (by simpa [shownWith] using h)))
    | polygon => exact .inl (own (declares_of_mem_picture (by simpa [shownWith] using h)))
    | path => exact .inl (own (declares_of_mem_picture (by simpa [shownWith] using h)))
    | icon => exact .inl (own (declares_of_mem_icon (by simpa [shownWith] using h)))
  · rw [eq, none] at h
    cases h

/-- Every rule of a drawing is the own rule of a node that is reached from the first. -/
theorem exists_isOwnRule (h : r ∈ (c.drawing cx).rules) :
    ∃ d, Relation.ReflTransGen (Calls cx) c d ∧ IsOwnRule cx d r := by
  induction c using (wellFounded_calls cx).induction with
  | h c ih =>
      rw [drawing_eq] at h
      obtain own | ⟨d, call, later⟩ := mem_rules_nodeWith h
      · exact ⟨c, .refl, own⟩
      · obtain ⟨e, reached, own⟩ := ih d call later
        exact ⟨e, .head call reached, own⟩

/-! ## rules that stay closed -/

/-- A node of some kind that takes over neither loose colours nor loose addresses into its rule. -/
def IsTidyNode (ms : Members) : Kind → Prop
  | .frame | .rectangle | .ellipse =>
    IsTidyFill (ms.get "fill") ∧ IsTidyStroke (ms.get "stroke") ∧ AreTidyEffects (ms.get "effect")
  | .text => IsTidyTextFill (ms.get "fill") ∧ AreTidyEffects (ms.get "effect")
  | .icon => IsTidyTextFill (ms.get "fill")
  | .line => IsTidyStroke (ms.get "stroke")
  | .group | .polygon | .path => AreTidyEffects (ms.get "effect")
  | .reference => True

/-- The style of a tidy node stays inside its rule, whatever its kind. -/
theorem yields_ownStyle (place : Place) {ms : Members} {kind : Kind} (tidy : IsTidyNode ms kind) :
    Yields IsInside (ownStyle place ms kind).result := by
  cases kind with
  | frame => exact yields_frameStyle place tidy.1 tidy.2.1 tidy.2.2
  | rectangle => exact yields_shapeStyle place (by decide) tidy.1 tidy.2.1 tidy.2.2
  | ellipse => exact yields_shapeStyle place (by decide) tidy.1 tidy.2.1 tidy.2.2
  | text => exact yields_textStyle place tidy.1 tidy.2
  | icon =>
      refine Styled.yields_bind fun width _ => Styled.yields_bind fun height _ => ?_
      exact yields_iconStyle place tidy width height
  | line => exact yields_lineStyle place tidy
  | group => exact yields_groupStyle place tidy
  | polygon => exact yields_pictureStyle place tidy
  | path => exact yields_pictureStyle place tidy
  | reference => exact yields_ok isFree_empty

/-- Every node that is drawn with a node is tidy. -/
def Call.IsTidy (cx : Context) (c : Call) : Prop :=
  ∀ d ms kind, Relation.ReflTransGen (Calls cx) c d → d.value = .obj ms → IsShown ms kind →
    IsTidyNode ms kind

/-- A rule with a selector in front of declarations in braces, none of which ends the rule. -/
def Rule.IsClosed (r : Rule) : Prop :=
  r.print = r.selector ++ "\x7b" ++ r.declarations ++ "\x7d" ∧ IsInside r.declarations

/-- The rules of a tidy node are closed. -/
theorem isClosed_of_mem_rules (tidy : c.IsTidy cx) (h : r ∈ (c.drawing cx).rules) : r.IsClosed := by
  obtain ⟨d, reached, ms, kind, hv, shown, own⟩ := exists_isOwnRule h
  exact ⟨rfl, yields_ownStyle d.place (tidy d ms kind reached hv shown) _ own.declarations⟩

/-- A session has the rules of the nodes that were drawn in it behind those that it had. -/
theorem rules_drawAll {s : Session} {isScope : Bool} {vs : List Value} {result : Session × List Tree}
    (h : s.drawAll isScope vs = .ok result) :
    result.1.rules = s.rules ++ vs.flatMap fun v => (node s.context s.place isScope v).rules := by
  induction vs generalizing s result with
  | nil =>
      cases h
      simp
  | cons v vs ih =>
      unfold Session.drawAll at h
      split at h
      · next next first eq =>
        have same : next = (s.draw isScope v).1 := by rw [eq]
        cases rest : next.drawAll isScope vs with
        | error e =>
          rw [rest] at h
          cases h
        | ok last =>
          rw [rest] at h
          cases h
          rw [ih rest, same]
          simp [Session.draw]
      · cases h

/-- The rules of a session are those that it had and those of the nodes that are drawn. -/
theorem mem_rules_drawAll {s : Session} {isScope : Bool} {vs : List Value} {result : Session × List Tree}
    (h : s.drawAll isScope vs = .ok result) (hr : r ∈ result.1.rules) :
    r ∈ s.rules ∨ ∃ v ∈ vs, r ∈ (Call.drawing s.context ⟨s.place, isScope, v⟩).rules := by
  rw [rules_drawAll h, List.mem_append, List.mem_flatMap] at hr
  exact hr

/-! ## selectors -/

/-- The class of a node stays inside its rule if the start of all classes does. -/
theorem isInside_className {vocabulary : Vocabulary} (start : IsInside vocabulary.classStart)
    (ms : Members) : IsInside (vocabulary.className ms) := by
  refine start.append (isFree_ofList.2 fun c hc => ?_)
  obtain ⟨d, -, rfl⟩ := List.mem_map.1 hc
  by_cases name : isNameChar d
  · rw [if_pos name]
    exact isRuleEnd_eq_false (by decide) d name
  · rw [if_neg name]
    decide

/-- The classes around a node stay free of what ends a rule. -/
theorem isInside_scope (start : IsInside cx.vocabulary.classStart) {d : Call}
    (reached : Relation.ReflTransGen (Calls cx) c d) (around : ∀ cls ∈ c.place.scope, IsInside cls) :
    ∀ cls ∈ d.place.scope, IsInside cls := by
  induction reached with
  | refl => exact around
  | tail _ call ih =>
      cases call with
      | copy => exact ih
      | @child place isScope ms kind layout v vs =>
          intro cls mem
          obtain mem | mem := List.mem_append.1 mem
          · exact ih cls mem
          · cases isScope with
            | false => cases mem
            | true => exact List.mem_singleton.1 mem ▸ isInside_className start ms

/-- A selector consists of such classes, so it stays inside a rule as well. -/
theorem isInside_selector (start : IsInside cx.vocabulary.classStart)
    (around : ∀ cls ∈ c.place.scope, IsInside cls) (h : r ∈ (c.drawing cx).rules) :
    IsInside r.selector := by
  obtain ⟨d, reached, ms, kind, -, -, own⟩ := exists_isOwnRule h
  refine IsFree.intercalate (by decide) fun selector hs => ?_
  obtain ⟨cls, mem, rfl⟩ := List.mem_map.1 hs
  have dot : IsInside "." := by decide
  refine dot.append ?_
  obtain mem | mem := List.mem_append.1 mem
  · exact isInside_scope start reached around cls (own.scope ▸ mem)
  · rw [List.mem_singleton.1 mem, own.cls]
    exact isInside_className start ms

/-! ## rules that cannot be left -/

/-- The rules of tidy nodes are closed: those of a node that is drawn, even if it fails, and those of
nodes that are drawn one after the other.  Their selectors do not end them either, if the text that
classes start with does not.  Tidy are the colours and the addresses that stay inside their rule, and no
others. -/
theorem rules_stay_closed (cx : Context) :
    (∀ c : Call, c.IsTidy cx → ∀ r ∈ (c.drawing cx).rules, r.IsClosed ∧
      (IsInside cx.vocabulary.classStart → (∀ cls ∈ c.place.scope, IsInside cls) →
        IsInside r.selector)) ∧
    (∀ (s : Session) isScope vs result, s.context = cx → s.drawAll isScope vs = .ok result →
      (∀ v ∈ vs, Call.IsTidy cx ⟨s.place, isScope, v⟩) →
        ∀ r ∈ result.1.rules, r ∈ s.rules ∨ r.IsClosed) ∧
    (∀ v, Yields IsInside (colorText v).result ↔ isLooseColor v = false) ∧
    ∀ v, IsInside (addressText v) ↔ isLooseAddress v = false := by
  refine ⟨fun c tidy r h => ⟨isClosed_of_mem_rules tidy h, fun start around => ?_⟩, ?_,
    yields_colorText_iff, isInside_addressText_iff⟩
  · exact isInside_selector start around h
  · intro s isScope vs result context h tidy r hr
    subst context
    obtain earlier | ⟨v, mem, own⟩ := mem_rules_drawAll h hr
    · exact .inl earlier
    · exact .inr (isClosed_of_mem_rules (tidy v mem) own)

/-- A frame with texts that try to end its rule, and in it a text that tries the same. -/
def hostileFrame : Call := ⟨⟨[], [], .str "vertical"⟩, true, .obj members⟩
where
  members : Members :=
    [ ("type", .str "frame"), ("gap", .str "1\x7d*\x7bcolor:red"), ("fill", .str "red\x7d*\x7b"),
      ("children", .list [.obj text]) ]
  text : Members :=
    [("type", .str "text"), ("fontFamily", .str "</style>"), ("fill", .str "$--a\x7db")]

/-- The frame is tidy in every context: its colours are no loose ones, and what they contain is filtered. -/
theorem isTidy_hostileFrame (cx : Context) : hostileFrame.IsTidy cx := by
  have frame : IsShown hostileFrame.members .frame := ⟨rfl, rfl, rfl⟩
  have text : IsShown hostileFrame.text .text := ⟨rfl, rfl, rfl⟩
  intro d ms kind reached hv shown
  obtain rfl | ⟨e, call, reached⟩ := reached.cases_head
  · cases hv
    cases shown.unique frame
    exact ⟨rfl, trivial, trivial⟩
  · have child : e.value = .obj hostileFrame.text := by
      cases call with
      | child _ _ held mem =>
          cases held
          exact List.mem_singleton.1 mem
      | copy other _ _ => cases frame.unique other
    obtain rfl | ⟨_, call, -⟩ := reached.cases_head
    · cases child.symm.trans hv
      cases shown.unique text
      exact ⟨rfl, trivial⟩
    · exact absurd call (not_calls_of_isShown child text rfl nofun)

/-- Its rules are closed although each of its texts tries to end one. -/
theorem rules_stay_closed_hostileFrame :
    ∃ cx : Context, hostileFrame.IsTidy cx ∧ (hostileFrame.drawing cx).rules ≠ [] ∧
      (∀ r ∈ (hostileFrame.drawing cx).rules, r.IsClosed ∧ IsInside r.selector) ∧
      ∃ result, (Session.start cx hostileFrame.place.layout).drawAll true [hostileFrame.value] = .ok result ∧
        ∀ r ∈ result.1.rules, r.IsClosed := by
  let cx : Context := ⟨[], ⟨[], "pen-"⟩, 10⟩
  have tidy := isTidy_hostileFrame cx
  have shown : IsShown hostileFrame.members .frame := ⟨rfl, rfl, rfl⟩
  have eq : hostileFrame.drawing cx =
      shownWith (Call.drawing cx) cx hostileFrame.place hostileFrame.isScope hostileFrame.members .frame := by
    rw [drawing_eq, nodeWith_of_isShown rfl shown]
  obtain ⟨closed, sessions, -⟩ := rules_stay_closed cx
  refine ⟨cx, tidy, ?_, fun r h => ?_, ?_⟩
  · rw [eq, shownWith, containerWith, Drawing.rules_orNothing]
    decide +kernel
  · obtain ⟨own, selector⟩ := closed hostileFrame tidy r h
    exact ⟨own, selector (by decide) (List.forall_mem_nil _)⟩
  · obtain ⟨ts, drawn⟩ : ∃ ts, (hostileFrame.drawing cx).result = .ok ts := by
      rw [eq]
      exact Drawing.orNothing_result _
    let s := Session.start cx hostileFrame.place.layout
    have all : s.drawAll true [hostileFrame.value] = .ok ((s.draw true hostileFrame.value).1, ts ++ []) := by
      have same : (s.draw true hostileFrame.value).2 = .ok ts := drawn
      rw [Session.drawAll, ← Prod.eta (s.draw true hostileFrame.value), same]
      rfl
    refine ⟨_, all, fun r h => ?_⟩
    have each : ∀ v ∈ [hostileFrame.value], Call.IsTidy cx ⟨s.place, true, v⟩ := by
      intro v mem
      cases List.mem_singleton.1 mem
      exact tidy
    obtain none | own := sessions s true _ _ rfl all each r h
    · cases none
    · exact own

/-- A colour of three characters is taken over as it is. -/
theorem not_isClosed_looseColor :
    ∃ r ∈ (Call.drawing ⟨[], ⟨[], "pen-"⟩, 10⟩ ⟨⟨[], [], .str "vertical"⟩, true,
        .obj [("type", .str "rectangle"), ("id", .str "r"), ("fill", .str "#a\x7db")]⟩).rules,
      r.print =
        ".pen-r\x7bbox-sizing: border-box;background-color: #aa\x7d\x7dbb;\x7d" ∧ ¬r.IsClosed := by
  rw [drawing_eq]
  refine ⟨⟨[], "pen-r", "box-sizing: border-box;background-color: #aa\x7d\x7dbb;"⟩, ?_, rfl, ?_⟩
  · decide
  · rintro ⟨-, inside⟩
    exact absurd inside (by decide)

end Pagewright.Pen
