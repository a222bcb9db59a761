import Pagewright.Proofs.Pen.Failure

/-!
# Pagewright.Proofs.Pen.Skipping

What stays behind of a node that is skipped.  A node that is shown is drawn by an attempt; if the attempt
fails, nothing stands in the place of the node, but what the attempt had collected by then is kept.  Shapes,
lines, pictures and references fail before they collect anything.  A text, a frame and a group have their
rule collected once their style is there, and an icon its font, and all of them may fail after that.
-/

namespace Pagewright.Pen

open Markup

variable {cx : Context} {place : Place} {isScope : Bool} {ms : Members} {kind : Kind} {f : Fault}

/-! ## attempts -/

/-- A frame or a group, before a fault is caught. -/
def containerAttempt (cx : Context) (place : Place) (isScope : Bool) (tag : String) (layout : Value)
    (style : Styled String) (ms : Members) : Drawing (List Tree) := do
  Drawing.declare place.scope (cx.vocabulary.className ms) (← style)
  let inner ← nodesWith (Call.drawing cx) (childPlace cx place isScope layout ms) ((children? ms).getD [])
  return [.element tag [classAttribute (cx.vocabulary.className ms)] inner]

/-- A reference, before a fault is caught. -/
def referenceAttempt (cx : Context) (place : Place) (ms : Members) : Drawing (List Tree) :=
  match component? cx.components cx.maxDepth place.within ms with
  | .error d => pure (diagnostic cx.vocabulary.classStart d)
  | .ok (id, component) =>
    match resolve ms component with
    | .error f => .fail f
    | .ok resolved => Call.drawing cx ⟨place.refer id, true, .obj resolved⟩

/-- A node of some kind, before a fault is caught. -/
def attempt (cx : Context) (place : Place) (isScope : Bool) (ms : Members) : Kind → Drawing (List Tree)
  | .frame =>
    containerAttempt cx place isScope (frameTag ((Members.get? "name" ms).getD (.str "")))
      (layoutOr "horizontal" ms) (frameStyle place ms) ms
  | .group => containerAttempt cx place isScope "div" (layoutOr "none" ms) (groupStyle place ms) ms
  | .text => text cx.vocabulary place ms
  | .rectangle => shape cx.vocabulary place "box-sizing: border-box;" ms
  | .ellipse => shape cx.vocabulary place "box-sizing: border-box; border-radius: 50%;" ms
  | .line => line cx.vocabulary place ms
  | .polygon => picture cx.vocabulary place ms (polygonOutline ms)
  | .path => picture cx.vocabulary place ms fun _ _ => pathOutline ms
  | .icon => icon cx.vocabulary place ms
  | .reference => referenceAttempt cx place ms

/-- A node that is shown is what its attempt gives, or nothing. -/
theorem node_eq_orNothing (cx : Context) (place : Place) (isScope : Bool) (shown : IsShown ms kind) :
    node cx place isScope (.obj ms) = (attempt cx place isScope ms kind).orNothing := by
  have drawn : node cx place isScope (.obj ms) = _ := drawing_eq cx ⟨place, isScope, .obj ms⟩
  rw [drawn, nodeWith_of_isShown rfl shown]
  cases kind with
  | frame => exact containerWith_eq ..
  | group => exact containerWith_eq ..
  | _ => rfl

/-! ## drawings that fail before they collect anything -/

/-- A drawing that has collected nothing. -/
structure Drawing.IsBlank {α : Type} (d : Drawing α) : Prop where
  rules : d.rules = []
  fonts : d.fonts = []

/-- A drawing that has collected nothing if it fails. -/
def Drawing.FailsBlank {α : Type} (d : Drawing α) : Prop := ∀ f, d.result = .error f → d.IsBlank

section

variable {α β : Type} {x : Styled α} {next : α → Drawing β}

/-- A style that fails keeps what follows from collecting anything. -/
theorem isBlank_styled_of_error (h : x.result = .error f) : ((liftM x : Drawing α) >>= next).IsBlank := by
  have lifted : (liftM x : Drawing α).result = .error f := h
  exact ⟨by simp only [bind, lifted]; rfl, by simp only [bind, lifted]; rfl⟩

/-- It fails the drawing with its own fault. -/
theorem result_styled_of_error (h : x.result = .error f) :
    ((liftM x : Drawing α) >>= next).result = .error f := by
  have lifted : (liftM x : Drawing α).result = .error f := h
  simp only [bind, lifted]

/-- A style collects nothing, and what follows it is all there is. -/
theorem styled_bind_of_ok {a : α} (h : x.result = .ok a) : (liftM x : Drawing α) >>= next = next a := by
  have lifted : (liftM x : Drawing α).result = .ok a := h
  simp only [bind, lifted]
  rfl

/-- A drawing behind a style fails blank if it does for every text of the style. -/
theorem failsBlank_styled (h : ∀ a, x.result = .ok a → (next a).FailsBlank) :
    ((liftM x : Drawing α) >>= next).FailsBlank := by
  intro f failed
  cases styled : x.result with
  | error e => exact isBlank_styled_of_error styled
  | ok a =>
      rw [styled_bind_of_ok styled] at failed ⊢
      exact h a styled f failed

/-- A rule that is collected last is not there if the drawing fails. -/
theorem failsBlank_declare (scope : List String) (cls : String) (style : Styled String) (b : β) :
    (do Drawing.declare scope cls (← style); return b : Drawing β).FailsBlank :=
  failsBlank_styled fun _ _ => nofun

/-- A picture collects its rule when its outline is already there, so it fails blank. -/
theorem failsBlank_picture (vocabulary : Vocabulary) (outline : Binary64 → Binary64 → Styled Tree) :
    (picture vocabulary place ms outline).FailsBlank :=
  failsBlank_styled fun _ _ => failsBlank_styled fun _ _ => failsBlank_styled fun _ _ =>
    failsBlank_declare _ _ _ _

end

/-- A node fails only if it cannot be told what it is, and then it has collected nothing. -/
theorem failsBlank_drawing (cx : Context) (c : Call) : (c.drawing cx).FailsBlank := by
  intro f failed
  have compound : hasCompoundType c.value = true := by
    by_contra scalar
    obtain ⟨html, drawn⟩ := exists_html_iff.2 (by simpa using scalar)
    rw [Call.html, failed] at drawn
    cases drawn
  obtain ⟨place, isScope, v⟩ := c
  cases v with
  | obj ms =>
      obtain ⟨enabled, type⟩ : isDisabled ms = false ∧ isScalar (Members.get "type" ms) = false := by
        simpa [hasCompoundType] using compound
      rw [drawing_eq, nodeWith]
      simp only [enabled, kind?_of_not_isScalar type]
      exact ⟨rfl, rfl⟩
  | _ => cases compound

/-- A reference fails before the copy is drawn, or with the copy. -/
theorem failsBlank_reference (cx : Context) (place : Place) (ms : Members) :
    (referenceAttempt cx place ms).FailsBlank := by
  unfold referenceAttempt
  split
  · exact nofun
  · split
    · exact fun _ _ => ⟨rfl, rfl⟩
    · exact failsBlank_drawing _ _

/-! ## drawings that add nothing to a session -/

/-- Whether a session has all that a drawing collects. -/
structure Session.Covers {α : Type} (s : Session) (d : Drawing α) : Prop where
  rules : d.rules = []
  fonts : joinFonts s.fonts d.fonts = s.fonts

/-- Every session has all of nothing. -/
theorem covers_of_isBlank {α : Type} {d : Drawing α} (blank : d.IsBlank) (s : Session) : s.Covers d where
  rules := blank.rules
  fonts := by rw [blank.fonts, joinFonts, List.foldl_nil]

/-- A session stays as it is exactly when it has all that is collected. -/
theorem draw_eq_self_iff {s : Session} {v : Value} :
    (s.draw isScope v).1 = s ↔ s.Covers (node s.context s.place isScope v) := by
  have same : (s.draw isScope v).1 = s ↔ (node s.context s.place isScope v).rules = [] ∧
      joinFonts s.fonts (node s.context s.place isScope v).fonts = s.fonts := by
    obtain ⟨context, place, rules, fonts⟩ := s
    simp [Session.draw]
  rw [same]
  exact ⟨fun kept => ⟨kept.1, kept.2⟩, fun covered => ⟨covered.rules, covered.fonts⟩⟩

/-- Catching the fault does not change what was collected. -/
theorem covers_orNothing_iff {s : Session} {d : Drawing (List Tree)} : s.Covers d.orNothing ↔ s.Covers d :=
  ⟨fun ⟨rules, fonts⟩ => ⟨by simpa using rules, by simpa using fonts⟩,
    fun ⟨rules, fonts⟩ => ⟨by simpa using rules, by simpa using fonts⟩⟩

/-- A style that does not come about. -/
def Styled.Fails {α : Type} (x : Styled α) : Prop := ∃ f, x.result = .error f

/-- Behind a style that declares something, the rule stays, whatever comes after it; without the style there
is nothing. -/
theorem covers_declare_iff {β : Type} {s : Session} {scope : List String} {cls : String}
    {style : Styled String} {rest : Drawing β} (written : Yields (· ≠ "") style.result) :
    s.Covers (do Drawing.declare scope cls (← style); rest : Drawing β) ↔ style.Fails := by
  cases styled : style.result with
  | error e => exact iff_of_true (covers_of_isBlank (isBlank_styled_of_error styled) s) ⟨e, styled⟩
  | ok declarations =>
      rw [styled_bind_of_ok styled]
      have some : declarations.isEmpty = false := by
        simpa using written declarations styled
      refine iff_of_false (fun covered => ?_) (fun ⟨e, failed⟩ => by cases styled.symm.trans failed)
      have rules := covered.rules
      rw [Drawing.rules_bind_of_ok rfl, Drawing.declare, some] at rules
      cases rules

/-! ## icons -/

/-- Whether the name and the size of an icon can be read. -/
def IsReadableIcon (ms : Members) : Prop :=
  ∃ name width height, (valueText ((ms.get? "iconFontName").getD (.str ""))).result = .ok name ∧
    numberOr 24 (ms.get "width") = .ok width ∧ numberOr 24 (ms.get "height") = .ok height

/-- The family of the font of an icon. -/
def iconFamily (ms : Members) : String := ((ms.get "iconFontFamily").orElse (.str "lucide")).display

section

variable {vocabulary : Vocabulary}

/-- An icon that cannot be read fails before its font is collected. -/
theorem isBlank_icon (unreadable : ¬IsReadableIcon ms) : (icon vocabulary place ms).IsBlank := by
  unfold icon
  cases name : (valueText ((ms.get? "iconFontName").getD (.str ""))).result with
  | error e => exact isBlank_styled_of_error name
  | ok n =>
      rw [styled_bind_of_ok name]
      cases width : numberOr 24 (ms.get "width") with
      | error e => exact isBlank_styled_of_error rfl
      | ok w =>
          rw [styled_bind_of_ok (a := w) rfl]
          cases height : numberOr 24 (ms.get "height") with
          | error e => exact isBlank_styled_of_error rfl
          | ok h => exact absurd ⟨n, w, h, name, width, height⟩ unreadable

/-- A font is collected in front of the rest. -/
theorem useFont_bind {β : Type} (family : String) (rest : Drawing β) :
    (do Drawing.useFont family; rest : Drawing β) =
      ⟨rest.rules, (iconFont? family).toList ++ rest.fonts, rest.result⟩ := rfl

/-- The font of an icon is collected before its style may fail. -/
theorem collected_icon (readable : IsReadableIcon ms) (failed : (icon vocabulary place ms).result = .error f) :
    (icon vocabulary place ms).rules = [] ∧
      (icon vocabulary place ms).fonts = (iconFont? (iconFamily ms)).toList := by
  obtain ⟨name, width, height, hn, hw, hh⟩ := readable
  unfold icon at failed ⊢
  rw [styled_bind_of_ok hn, styled_bind_of_ok (x := (numberOr 24 (ms.get "width") : Styled Binary64)) hw,
    styled_bind_of_ok (x := (numberOr 24 (ms.get "height") : Styled Binary64)) hh, useFont_bind] at failed ⊢
  have blank := failsBlank_declare _ _ _ _ f failed
  exact ⟨blank.rules, by rw [blank.fonts, List.append_nil, iconFamily]⟩

/-- One font more makes no difference exactly when it is there. -/
theorem joinFonts_toList_eq_self_iff {fonts : List IconFont} {font? : Option IconFont} :
    joinFonts fonts font?.toList = fonts ↔ ∀ font ∈ font?, font ∈ fonts := by
  cases font? with
  | none => simp [joinFonts]
  | some font => by_cases mem : font ∈ fonts <;> simp [joinFonts, mem]

/-- An icon that fails has collected its font if its name and its size could be read, and nothing else. -/
theorem covers_icon_iff {s : Session} (failed : (icon vocabulary place ms).result = .error f) :
    s.Covers (icon vocabulary place ms) ↔
      (IsReadableIcon ms → ∀ font ∈ iconFont? (iconFamily ms), font ∈ s.fonts) := by
  by_cases readable : IsReadableIcon ms
  · obtain ⟨rules, fonts⟩ := collected_icon readable failed
    rw [forall_prop_of_true readable, ← joinFonts_toList_eq_self_iff, ← fonts]
    exact ⟨Session.Covers.fonts, fun covered => ⟨rules, covered⟩⟩
  · exact iff_of_true (covers_of_isBlank (isBlank_icon readable) s) fun given => absurd given readable

end

/-! ## styles that declare something -/

/-- The style of a text is never empty. -/
theorem written_textStyle (place : Place) (ms : Members) : Yields (· ≠ "") (textStyle place ms).result := by
  iterate 7 refine Styled.yields_bind fun _ _ => ?_
  exact yields_ok (by simp)

/-- The style of a frame is never empty. -/
theorem written_frameStyle (place : Place) (ms : Members) : Yields (· ≠ "") (frameStyle place ms).result := by
  iterate 5 refine Styled.yields_bind fun _ _ => ?_
  exact yields_ok (by simp)

/-- The style of a group is never empty. -/
theorem written_groupStyle (place : Place) (ms : Members) : Yields (· ≠ "") (groupStyle place ms).result := by
  unfold groupStyle
  extract_lets finish
  have finished (layout : String) : Yields (· ≠ "") (finish layout).result := by
    iterate 4 refine Styled.yields_bind fun _ _ => ?_
    exact yields_ok (by simp)
  split
  · exact Styled.yields_bind fun layout _ => finished layout
  · exact finished ""

/-! ## nodes that are skipped -/

/-- When a node of some kind that fails leaves a session as it is.  A frame, a group or a text must fail in
its own style; an icon must be one that cannot be read, or one of a font that is not known or that the
session has already. -/
def SkipsCleanly (s : Session) (ms : Members) (kind : Kind) : Prop :=
  match kind with
  | .frame | .group | .text => (ownStyle s.place ms kind).Fails
  | .icon => IsReadableIcon ms → ∀ font ∈ iconFont? (iconFamily ms), font ∈ s.fonts
  | _ => True

/-- What a node of any kind has collected before it failed is the rule of its own style, a font, or nothing. -/
theorem covers_attempt_iff {s : Session} (failed : (attempt cx s.place isScope ms kind).result = .error f) :
    s.Covers (attempt cx s.place isScope ms kind) ↔ SkipsCleanly s ms kind := by
  have blank (always : (attempt cx s.place isScope ms kind).FailsBlank) :
      s.Covers (attempt cx s.place isScope ms kind) := covers_of_isBlank (always f failed) s
  cases kind with
  | frame => exact covers_declare_iff (written_frameStyle _ _)
  | group => exact covers_declare_iff (written_groupStyle _ _)
  | text => exact covers_declare_iff (written_textStyle _ _)
  | icon => exact covers_icon_iff failed
  | rectangle => exact iff_of_true (blank (failsBlank_declare _ _ _ _)) trivial
  | ellipse => exact iff_of_true (blank (failsBlank_declare _ _ _ _)) trivial
  | line => exact iff_of_true (blank (failsBlank_declare _ _ _ _)) trivial
  | polygon => exact iff_of_true (blank (failsBlank_picture _ _)) trivial
  | path => exact iff_of_true (blank (failsBlank_picture _ _)) trivial
  | reference => exact iff_of_true (blank (failsBlank_reference _ _ _)) trivial

/-- A node whose values cannot be rendered leaves nothing in its place.  It leaves nothing in the session
either exactly when it is a shape, a line, a picture or a reference, or fails before it has collected its
rule or its font. -/
theorem skipped_draw_eq_self_iff (s : Session) (isScope : Bool) {ms : Members} {kind : Kind} {f : Fault}
    (shown : IsShown ms kind) (failed : (attempt s.context s.place isScope ms kind).result = .error f) :
    (s.draw isScope (.obj ms)).2 = .ok [] ∧
      ((s.draw isScope (.obj ms)).1 = s ↔ SkipsCleanly s ms kind) := by
  have drawn := node_eq_orNothing s.context s.place isScope shown
  constructor
  · rw [Session.draw, drawn, Drawing.orNothing, failed]
  · rw [draw_eq_self_iff, drawn, covers_orNothing_iff, covers_attempt_iff failed]

/-- A position that is too large for per cents. -/
def boundlessPosition : Value := .float (.finite false (Nat.pow 2 52) 971 (by decide))

/-- A gradient with a stop at such a position. -/
def boundlessFill : Value :=
  .obj [("type", .str "gradient"), ("colors", .list [.obj [("position", boundlessPosition)]])]

/-- A rectangle with such a fill. -/
def boundlessRectangle : Members :=
  [("type", .str "rectangle"), ("id", .str "r"), ("fill", boundlessFill)]

/-- A session that has a rule already. -/
def begunSession : Session := ⟨bareContext, pagePlace, [⟨[], "pen-a", "margin: 0;"⟩], []⟩

/-- The rectangle is skipped, and the session stays as it is. -/
theorem skipped_draw_eq_self_iff_rectangle :
    IsShown boundlessRectangle .rectangle ∧
      (∃ f, (attempt bareContext pagePlace true boundlessRectangle .rectangle).result = .error f) ∧
      begunSession.draw true (.obj boundlessRectangle) = (begunSession, .ok []) := by
  have shown : IsShown boundlessRectangle .rectangle := ⟨rfl, rfl, rfl⟩
  have style : (shapeStyle "box-sizing: border-box;" pagePlace boundlessRectangle).result =
      .error .overflow := by decide +kernel
  have failed : (attempt bareContext pagePlace true boundlessRectangle .rectangle).result =
      .error .overflow := by
    rw [attempt, shape]
    exact result_styled_of_error style
  obtain ⟨nothing, same⟩ := skipped_draw_eq_self_iff begunSession true shown failed
  exact ⟨shown, ⟨_, failed⟩, Prod.ext (same.2 trivial) nothing⟩

/-- A text with a run that has such a fill. -/
def boundlessText : Members :=
  [ ("type", .str "text"), ("id", .str "t"),
    ("content", .list [.obj [("content", .str "x"), ("fill", boundlessFill)]]) ]

/-- An icon with such a fill. -/
def boundlessIcon : Members :=
  [ ("type", .str "icon_font"), ("id", .str "i"), ("iconFontName", .str "home"), ("fill", boundlessFill) ]

/-- A text that is skipped leaves its rule behind, and an icon its font. -/
theorem skipped_draw_ne_self :
    (((begunSession.draw true (.obj boundlessText)).2.map printTrees = .ok "" ∧
      (begunSession.draw true (.obj boundlessText)).1.rules =
        begunSession.rules ++ [⟨[], "pen-t", "box-sizing: border-box; margin: 0;"⟩]) ∧
    ((begunSession.draw true (.obj boundlessIcon)).2.map printTrees = .ok "" ∧
      (begunSession.draw true (.obj boundlessIcon)).1.fonts = (iconFont? "lucide").toList)) := by
  have text : IsShown boundlessText .text := ⟨rfl, rfl, rfl⟩
  have icon : IsShown boundlessIcon .icon := ⟨rfl, rfl, rfl⟩
  simp only [Session.draw, node_eq_orNothing _ _ _ text, node_eq_orNothing _ _ _ icon]
  decide +kernel

end Pagewright.Pen
