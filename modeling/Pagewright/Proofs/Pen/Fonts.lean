import Pagewright.Pen.Session
import Pagewright.Proofs.Pen.Calls

/-!
# Pagewright.Proofs.Pen.Fonts

The fonts of a drawing.  A drawing collects a font only for an icon, and only if its style sheet is known.
Known fonts are told apart by their families, so joining them keeps one font for each family.
-/

namespace Pagewright.Pen

open Markup

/-! ## fonts by family -/

/-- Fonts with one more font, unless there is one of its family already. -/
def addFont (fonts : List IconFont) (font : IconFont) : List IconFont :=
  if fonts.any (·.family == font.family) then fonts else fonts ++ [font]

/-- Fonts stay as they are and where they are when others are added, all of other families. -/
theorem exists_foldl_addFont (fonts more : List IconFont) :
    ∃ new, more.foldl addFont fonts = fonts ++ new ∧
      ∀ font ∈ new, ∀ old ∈ fonts, font.family ≠ old.family := by
  induction more generalizing fonts with
  | nil => exact ⟨[], by simp⟩
  | cons font more ih =>
      by_cases there : fonts.any (·.family == font.family)
      · have same : addFont fonts font = fonts := if_pos there
        rw [List.foldl_cons, same]
        exact ih fonts
      · have added : addFont fonts font = fonts ++ [font] := if_neg there
        obtain ⟨new, eq, other⟩ := ih (fonts ++ [font])
        refine ⟨font :: new, by rw [List.foldl_cons, added, eq, List.append_assoc]; rfl, ?_⟩
        intro f hf old mem
        obtain rfl | hf := List.mem_cons.1 hf
        · intro eq
          exact there (List.any_eq_true.2 ⟨old, mem, by simp [eq]⟩)
        · exact other f hf old (List.mem_append_left _ mem)

/-! ## known fonts -/

/-- A font whose style sheet is where it is known to be. -/
def IconFont.IsKnown (font : IconFont) : Prop := iconFont? font.family = some font

/-- Among known fonts a family stands for its font. -/
theorem any_family_iff {fonts : List IconFont} {font : IconFont} (known : ∀ f ∈ fonts, f.IsKnown)
    (hf : font.IsKnown) : fonts.any (·.family == font.family) = true ↔ font ∈ fonts := by
  rw [List.any_eq_true]
  constructor
  · rintro ⟨old, mem, same⟩
    have eq : some old = some font := by rw [← known old mem, ← hf, beq_iff_eq.1 same]
    exact Option.some.inj eq ▸ mem
  · exact fun mem => ⟨font, mem, beq_self_eq_true _⟩

/-- Known fonts are joined family by family. -/
theorem joinFonts_eq {fonts more : List IconFont} (known : ∀ f ∈ fonts, f.IsKnown)
    (hm : ∀ f ∈ more, f.IsKnown) : joinFonts fonts more = more.foldl addFont fonts := by
  induction more generalizing fonts with
  | nil => rfl
  | cons font more ih =>
      have hf := hm font (List.mem_cons_self ..)
      have later : ∀ f ∈ more, f.IsKnown := fun f mem => hm f (List.mem_cons_of_mem font mem)
      have step : (if font ∈ fonts then fonts else fonts ++ [font]) = addFont fonts font := by
        unfold addFont
        simp only [any_family_iff known hf]
      rw [joinFonts, List.foldl_cons, List.foldl_cons, step]
      refine ih (fun f mem => ?_) later
      unfold addFont at mem
      split at mem
      · exact known f mem
      · obtain mem | mem := List.mem_append.1 mem
        · exact known f mem
        · exact List.mem_singleton.1 mem ▸ hf

/-- A drawing that collects known fonts only. -/
def Drawing.KnowsFonts {α : Type} (d : Drawing α) : Prop := ∀ font ∈ d.fonts, font.IsKnown

section

variable {α β : Type}

theorem knowsFonts_of_nothing {d : Drawing α} (none : d.fonts = []) : d.KnowsFonts := by
  simp [Drawing.KnowsFonts, none]

/-- A drawing in two steps collects the fonts of both. -/
theorem knowsFonts_bind {x : Drawing α} {f : α → Drawing β} (hx : x.KnowsFonts)
    (hf : ∀ a, (f a).KnowsFonts) : (x >>= f).KnowsFonts := by
  intro font mem
  cases h : x.result with
  | error e =>
      simp only [bind, h] at mem
      exact hx font mem
  | ok a =>
      simp only [bind, h, List.mem_append] at mem
      exact mem.elim (hx font) (hf a font)

/-- A style collects no fonts. -/
theorem knowsFonts_styled {x : Styled α} {f : α → Drawing β} (hf : ∀ a, (f a).KnowsFonts) :
    ((liftM x : Drawing α) >>= f).KnowsFonts :=
  knowsFonts_bind (knowsFonts_of_nothing rfl) hf

/-- A rule collects no fonts. -/
theorem knowsFonts_declare {scope : List String} {cls : String} {style : Styled String}
    {rest : Drawing β} (hr : rest.KnowsFonts) :
    (do Drawing.declare scope cls (← style); rest : Drawing β).KnowsFonts :=
  knowsFonts_styled fun _ => knowsFonts_bind (knowsFonts_of_nothing rfl) fun _ => hr

theorem knowsFonts_pure (a : α) : (pure a : Drawing α).KnowsFonts := knowsFonts_of_nothing rfl

/-- A font is collected with the address that is known for its family, or not at all. -/
theorem knowsFonts_useFont (family : String) : (Drawing.useFont family).KnowsFonts := by
  intro font mem
  have found : iconFont? family = some font := by simpa [Drawing.useFont] using mem
  have same : font.family = family := by simpa using List.find?_some found
  rw [IconFont.IsKnown, same, found]

/-- Catching a fault collects nothing. -/
theorem knowsFonts_orNothing {d : Drawing (List Tree)} (h : d.KnowsFonts) : d.orNothing.KnowsFonts := by
  intro font mem
  exact h font (Drawing.fonts_orNothing d ▸ mem)

end

section

variable (vocabulary : Vocabulary) (place : Place) (ms : Members)

/-- A text has a style and a rule, and no fonts. -/
theorem knowsFonts_text : (text vocabulary place ms).KnowsFonts := by
  refine knowsFonts_declare (knowsFonts_styled fun content => ?_)
  split
  · exact knowsFonts_pure _
  · exact knowsFonts_styled fun tag => knowsFonts_pure _

/-- A shape has a style and a rule, and no fonts. -/
theorem knowsFonts_shape (declarations : String) :
    (shape vocabulary place declarations ms).KnowsFonts :=
  knowsFonts_declare (knowsFonts_pure _)

/-- A line has a style and a rule, and no fonts. -/
theorem knowsFonts_line : (line vocabulary place ms).KnowsFonts :=
  knowsFonts_declare (knowsFonts_pure _)

/-- A picture has an outline, a style and a rule, and no fonts. -/
theorem knowsFonts_picture (outline : Binary64 → Binary64 → Styled Tree) :
    (picture vocabulary place ms outline).KnowsFonts :=
  knowsFonts_styled fun _ => knowsFonts_styled fun _ => knowsFonts_styled fun _ =>
    knowsFonts_declare (knowsFonts_pure _)

/-- An icon has the font of its family. -/
theorem knowsFonts_icon : (icon vocabulary place ms).KnowsFonts :=
  knowsFonts_styled fun _ => knowsFonts_styled fun _ => knowsFonts_styled fun _ =>
    knowsFonts_bind (knowsFonts_useFont _) fun _ => knowsFonts_declare (knowsFonts_pure _)

end

/-! ## nodes -/

section

variable {cx : Context} {draw : Call → Drawing (List Tree)} {c : Call} {ms : Members} {place : Place}

/-- Nodes in a row collect the fonts of each of them. -/
theorem knowsFonts_nodesWith {vs : List Value}
    (each : ∀ v ∈ vs, (draw ⟨place, false, v⟩).KnowsFonts) : (nodesWith draw place vs).KnowsFonts := by
  induction vs with
  | nil => exact knowsFonts_pure []
  | cons v vs ih =>
      refine knowsFonts_bind (each v (List.mem_cons_self ..)) fun first => ?_
      refine knowsFonts_bind (ih fun w hw => each w (List.mem_cons_of_mem v hw)) fun rest => ?_
      exact knowsFonts_pure _

/-- A container collects those of its children. -/
theorem knowsFonts_containerWith {isScope : Bool} {tag : String} {layout : Value}
    {style : Styled String}
    (each : ∀ vs, children? ms = some vs → ∀ v ∈ vs,
      (draw ⟨childPlace cx place isScope layout ms, false, v⟩).KnowsFonts) :
    (containerWith draw cx place isScope tag layout style ms).KnowsFonts := by
  refine knowsFonts_orNothing (knowsFonts_declare ?_)
  extract_lets finish
  split
  · next vs held => exact knowsFonts_bind (knowsFonts_nodesWith (each vs held)) fun _ => knowsFonts_pure _
  · exact knowsFonts_bind (knowsFonts_pure _) fun _ => knowsFonts_pure _

/-- A reference collects those of its copy. -/
theorem knowsFonts_referenceWith
    (copy : ∀ id component resolved,
      component? cx.components cx.maxDepth place.within ms = .ok (id, component) →
      resolve ms component = .ok resolved → (draw ⟨place.refer id, true, .obj resolved⟩).KnowsFonts) :
    (referenceWith draw cx place ms).KnowsFonts := by
  refine knowsFonts_orNothing ?_
  split
  · exact knowsFonts_pure _
  · next id component found =>
    split
    · exact knowsFonts_of_nothing rfl
    · next resolved stands => exact copy id component resolved found stands

/-- A node of some kind collects known fonts only, if the nodes do that its drawing starts. -/
theorem knowsFonts_shownWith {isScope : Bool} {kind : Kind} (shown : IsShown ms kind)
    (known : ∀ d, Calls cx ⟨place, isScope, .obj ms⟩ d → (draw d).KnowsFonts) :
    (shownWith draw cx place isScope ms kind).KnowsFonts := by
  cases kind with
  | frame =>
      exact knowsFonts_containerWith fun vs held v mem => known _ (.child shown rfl held mem)
  | group =>
      exact knowsFonts_containerWith fun vs held v mem => known _ (.child shown rfl held mem)
  | reference =>
      exact knowsFonts_referenceWith fun id component resolved found stands =>
        known _ (.copy shown found stands)
  | text => exact knowsFonts_orNothing (knowsFonts_text _ _ _)
  | rectangle => exact knowsFonts_orNothing (knowsFonts_shape _ _ _ _)
  | ellipse => exact knowsFonts_orNothing (knowsFonts_shape _ _ _ _)
  | line => exact knowsFonts_orNothing (knowsFonts_line _ _ _)
  | polygon => exact knowsFonts_orNothing (knowsFonts_picture _ _ _ _)
  | path => exact knowsFonts_orNothing (knowsFonts_picture _ _ _ _)
  | icon => exact knowsFonts_orNothing (knowsFonts_icon _ _ _)

/-- A node that is not shown collects none; one that is shown does as its kind does. -/
theorem knowsFonts_nodeWith (known : ∀ d, Calls cx c d → (draw d).KnowsFonts) :
    (nodeWith draw cx c).KnowsFonts := by
  obtain ⟨place, isScope, v⟩ := c
  unfold nodeWith
  cases v with
  | obj ms =>
      dsimp only
      split
      · exact knowsFonts_pure _
      · next enabled =>
        split
        · exact knowsFonts_of_nothing rfl
        · exact knowsFonts_pure _
        · next kind named =>
          split
          · exact knowsFonts_pure _
          · next used =>
            exact knowsFonts_shownWith ⟨by simpa using enabled, named, by simpa using used⟩ known
  | _ => exact knowsFonts_pure _

/-- Every drawing of a node collects known fonts only. -/
theorem knowsFonts_drawing (cx : Context) (c : Call) : (c.drawing cx).KnowsFonts := by
  induction c using (wellFounded_calls cx).induction with
  | h c ih =>
      rw [drawing_eq]
      exact knowsFonts_nodeWith ih

end

end Pagewright.Pen
