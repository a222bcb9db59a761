import Pagewright.Pen.Render
import Pagewright.Proofs.Pen.Paint

/-!
# Pagewright.Proofs.Pen.Declarations

The style of a node stays inside its rule: its layout, its size and place, its type, and with tidy colours
and addresses its fill, stroke and effects.
-/

namespace Pagewright.Pen

/-! ## boxes -/

/-- A length is a value that was made safe, in pixels. -/
theorem yields_pixels (v : Value) : Yields IsInside (pixels v).result := by
  refine Styled.yields_bind_of (yields_valueText v) fun text ht => yields_ok ?_
  simp +decide only [isFree_append, ht, and_self]

/-- A declaration from a member: its property and unit are fixed, and its value was made safe. -/
theorem yields_memberDeclaration (ms : Members) (key : String) {property unit : String}
    (hp : IsInside property) (hu : IsInside unit) :
    Yields IsInside (memberDeclaration ms key property unit).result := by
  unfold memberDeclaration
  extract_lets v
  split
  · exact yields_ok isFree_empty
  · refine Styled.yields_bind_of (yields_valueText v) fun text ht => yields_ok ?_
    simp +decide only [isFree_append, hp, hu, ht, and_self]

/-- A word is one of a table, or a fixed one where it is not in the table. -/
theorem yields_wordDeclaration (ms : Members) (key : String) {property : String}
    {words : List (String × String)} (hp : IsInside property) (hw : ∀ word ∈ words, IsInside word.2) :
    Yields IsInside (wordDeclaration ms key property words) := by
  unfold wordDeclaration
  extract_lets v
  split
  · exact yields_ok isFree_empty
  · refine Yields.bind fun name? _ => yields_ok ?_
    have word := getD_bind_lookup hw (by decide : IsInside "flex-start") name?
    simp +decide only [isFree_append, hp, word, and_self]

/-- Several lengths with blanks between them. -/
theorem yields_lengths (vs : List Value) {property : String} (hp : IsInside property) :
    Yields IsInside (do return property ++ String.intercalate " " (← vs.mapM pixels) ++ ";" :
      Styled String).result := by
  refine Styled.yields_bind_of (Styled.yields_mapM fun v _ => yields_pixels v) fun texts ht => ?_
  have joined := IsFree.intercalate (by decide : IsInside " ") ht
  exact yields_ok (by simp +decide only [isFree_append, hp, joined, and_self])

/-- A declaration of one length. -/
theorem yields_length (v : Value) {property : String} (hp : IsInside property) :
    Yields IsInside (do return property ++ (← pixels v) ++ ";" : Styled String).result := by
  refine Styled.yields_bind_of (yields_pixels v) fun text ht => yields_ok ?_
  simp +decide only [isFree_append, hp, ht, and_self]

/-- A padding is one length or a list of them; anything else declares nothing. -/
theorem yields_padding (v : Value) : Yields IsInside (padding v).result := by
  refine Styled.yields_bind fun x? _ => ?_
  split
  · exact yields_length v (by decide)
  · split
    · split
      · exact yields_lengths _ (by decide)
      · exact yields_ok isFree_empty
    · exact yields_ok isFree_empty

/-- The layout of children: a fixed direction with a gap, a padding and two words. -/
theorem yields_layoutOf (ms : Members) (layout : Value) :
    Yields IsInside (layoutOf ms layout).result := by
  unfold layoutOf
  split
  · exact yields_ok (by decide)
  · extract_lets direction
    have hd : IsInside direction := by
      unfold direction
      split <;> decide
    refine Styled.yields_bind_of (yields_memberDeclaration ms _ (by decide) (by decide)) fun gap hg => ?_
    refine Styled.yields_bind_of (yields_padding _) fun padding hp => ?_
    refine Styled.yields_bind_of (yields_wordDeclaration ms _ (by decide) (by decide)) fun justify hj => ?_
    refine Styled.yields_bind_of (yields_wordDeclaration ms _ (by decide) (by decide)) fun align ha => ?_
    exact yields_ok (by simp +decide only [isFree_append, hd, hg, hp, hj, ha, and_self])

/-- A width or height is a number, a variable, or one of the ways to fill or fit what is around; the number in
the latter is written anew. -/
theorem yields_dimension {name : String} (hn : IsInside name) (parentLayout v : Value) :
    Yields IsInside (dimension name parentLayout v).result := by
  refine Styled.yields_bind fun x? _ => ?_
  cases x? with
  | some x =>
      have number := isInside_numberText x
      exact yields_ok (by simp +decide only [isFree_append, hn, number, and_self])
  | none =>
      dsimp only
      split
      · next s _ =>
        split
        · refine Styled.yields_bind_of (yields_valueText _) fun text ht => yields_ok ?_
          simp +decide only [isFree_append, hn, ht, and_self]
        · split
          · split
            · have basis : IsInside ((fallback? s.toList).elim "0%" fun x => numberText x ++ "px") :=
                isInside_elim (by decide) (fun x => (isInside_numberText x).append (by decide)) _
              exact yields_ok (by simp +decide only [isFree_append, hn, basis, and_self])
            · exact yields_ok (by simp +decide only [isFree_append, hn, and_self])
          · split
            · have number (x : Binary64) : IsInside ("min-" ++ name ++ ": " ++ numberText x ++ "px;") := by
                simp +decide only [isFree_append, hn, isInside_numberText, and_self]
              have least := isInside_elim isFree_empty number (fallback? s.toList)
              exact yields_ok (by simp +decide only [isFree_append, hn, least, and_self])
            · exact yields_ok isFree_empty
      · exact yields_ok isFree_empty

/-- A size is a width and a height. -/
theorem yields_sizing (ms : Members) (parentLayout : Value) :
    Yields IsInside (sizing ms parentLayout).result := by
  refine Styled.yields_bind_of (yields_dimension (by decide) _ _) fun width hw => ?_
  refine Styled.yields_bind_of (yields_dimension (by decide) _ _) fun height hh => ?_
  exact yields_ok (hw.append hh)

/-- A position is two members. -/
theorem yields_position (ms : Members) : Yields IsInside (position ms).result := by
  refine Styled.yields_bind_of (yields_memberDeclaration ms _ (by decide) (by decide)) fun left hl => ?_
  refine Styled.yields_bind_of (yields_memberDeclaration ms _ (by decide) (by decide)) fun top ht => ?_
  exact yields_ok (by simp +decide only [isFree_append, hl, ht, and_self])

/-- A node has a position of its own only where its parent lays nothing out. -/
theorem yields_freePosition (place : Place) (ms : Members) :
    Yields IsInside (freePosition place ms).result := by
  unfold freePosition
  split
  · exact yields_position ms
  · exact yields_ok isFree_empty

/-! ## appearance -/

/-- A rotation is written anew, the other way round, if it is a number, and made safe if it is not. -/
theorem yields_rotation (v : Value) : Yields IsInside (rotation v).result := by
  refine Styled.yields_bind fun isZero _ => ?_
  split
  · exact yields_ok isFree_empty
  · refine Styled.yields_bind_of (yields_valueText v) fun text ht => Styled.yields_bind fun x? _ => ?_
    cases x? with
    | none => exact yields_ok (by simp +decide only [isFree_append, ht, and_self])
    | some x =>
        have number := isInside_numberText x.neg
        exact yields_ok (by simp +decide only [isFree_append, number, and_self])

/-- Rounded corners are one length or several. -/
theorem yields_cornerRadius (v : Value) : Yields IsInside (cornerRadius v).result := by
  refine Styled.yields_bind fun isZero _ => ?_
  split
  · exact yields_ok isFree_empty
  · refine Styled.yields_bind fun x? _ => ?_
    split
    · exact yields_length v (by decide)
    · split
      · split
        · exact yields_lengths _ (by decide)
        · exact yields_ok isFree_empty
      · exact yields_ok isFree_empty

/-- An opacity is a value that was made safe. -/
theorem yields_opacity (v : Value) : Yields IsInside (opacity v).result := by
  refine Styled.yields_bind fun isOne _ => ?_
  split
  · exact yields_ok isFree_empty
  · refine Styled.yields_bind_of (yields_valueText v) fun text ht => yields_ok ?_
    simp +decide only [isFree_append, ht, and_self]

/-- Cutting off what overflows is a fixed declaration. -/
theorem isInside_clip (v : Value) : IsInside (clip v) := by
  unfold clip
  split <;> decide

/-- The box of a node puts these declarations one behind the other. -/
theorem yields_box (ms : Members) (isAbsolute : Bool) (parentLayout : Value) :
    Yields IsInside (box ms isAbsolute parentLayout).result := by
  refine Styled.yields_bind_of (yields_sizing ms parentLayout) fun size hs => ?_
  extract_lets finish
  have finished (place : String) (hp : IsInside place) : Yields IsInside (finish place).result := by
    refine Styled.yields_bind_of (yields_cornerRadius _) fun corners hc => ?_
    refine Styled.yields_bind_of (yields_opacity _) fun opacity ho => ?_
    refine Styled.yields_bind_of (yields_rotation _) fun rotation hr => yields_ok ?_
    simp only [isFree_append, hs, hp, hc, ho, isInside_clip, hr, and_self]
  split
  · exact Styled.yields_bind_of (yields_position ms) finished
  · exact finished "" isFree_empty

/-! ## type -/

/-- A declaration about type is a member with a fixed unit. -/
theorem yields_typeDeclaration (ms : Members) (key : String) {property unit : String}
    (hp : IsInside property) (hu : IsInside unit) :
    Yields IsInside (typeDeclaration ms key property unit).result := by
  unfold typeDeclaration
  split
  · refine Styled.yields_bind_of (yields_valueText _) fun text ht => yields_ok ?_
    simp +decide only [isFree_append, hp, hu, ht, and_self]
  · exact yields_ok isFree_empty

/-- The name of a font was made safe, and loses its double quotes where it is put into such. -/
theorem yields_fontFamily (ms : Members) : Yields IsInside (fontFamily ms).result := by
  unfold fontFamily
  split
  · exact yields_ok isFree_empty
  · refine Styled.yields_bind_of (yields_valueText _) fun family hf => ?_
    split
    · exact yields_ok (by simp +decide only [isFree_append, hf, and_self])
    · have name : IsInside (String.ofList (family.toList.filter (· != '"'))) :=
        isFree_ofList.2 fun c hc => hf c (List.mem_filter.1 hc).1
      exact yields_ok (by simp +decide only [isFree_append, name, and_self])

/-- Decorations of text are fixed words. -/
theorem isInside_decoration (ms : Members) : IsInside (decoration ms) := by
  unfold decoration
  cases (ms.get "underline").isTruthy <;> cases (ms.get "strikethrough").isTruthy <;> decide

/-- The type of a text puts these declarations one behind the other. -/
theorem yields_typography (ms : Members) : Yields IsInside (typography ms).result := by
  have declared (key : String) {property unit : String} (hp : IsInside property) (hu : IsInside unit) :=
    yields_typeDeclaration ms key hp hu
  refine Styled.yields_bind_of (yields_fontFamily ms) fun family hf => ?_
  refine Styled.yields_bind_of (declared _ (by decide) (by decide)) fun size h1 => ?_
  refine Styled.yields_bind_of (declared _ (by decide) (by decide)) fun weight h2 => ?_
  refine Styled.yields_bind_of (declared _ (by decide) (by decide)) fun style h3 => ?_
  refine Styled.yields_bind_of (declared _ (by decide) (by decide)) fun spacing h4 => ?_
  refine Styled.yields_bind_of (declared _ (by decide) (by decide)) fun height h5 => ?_
  refine Styled.yields_bind_of (declared _ (by decide) (by decide)) fun align h6 => yields_ok ?_
  have lines := isInside_decoration ms
  simp only [isFree_append, hf, h1, h2, h3, h4, h5, h6, lines, and_self]

/-! ## nodes -/

section

variable {ms : Members} (place : Place)

/-- A text with tidy colours and effects. -/
theorem yields_textStyle (tidyFill : IsTidyTextFill (ms.get "fill"))
    (tidyEffects : AreTidyEffects (ms.get "effect")) : Yields IsInside (textStyle place ms).result := by
  refine Styled.yields_bind_of (yields_typography ms) fun type ht => ?_
  refine Styled.yields_bind_of (yields_textFill tidyFill) fun color hc => ?_
  refine Styled.yields_bind_of (yields_sizing ms _) fun size hs => ?_
  refine Styled.yields_bind_of (yields_freePosition place ms) fun position hp => ?_
  refine Styled.yields_bind_of (yields_opacity _) fun opacity ho => ?_
  refine Styled.yields_bind_of (yields_rotation _) fun rotation hr => ?_
  refine Styled.yields_bind_of (yields_effects tidyEffects) fun effects he => yields_ok ?_
  have overflow : IsInside
      (if (ms.get "textGrowth").isText "fixed-width-height" then "overflow: hidden;" else "") := by
    split <;> decide
  simp +decide only [isFree_append, ht, hc, hs, hp, ho, hr, he, overflow, and_self]

/-- A shape with a tidy fill, stroke and effects; what makes the shape is fixed. -/
theorem yields_shapeStyle {shape : String} (hs : IsInside shape) (tidyFill : IsTidyFill (ms.get "fill"))
    (tidyStroke : IsTidyStroke (ms.get "stroke")) (tidyEffects : AreTidyEffects (ms.get "effect")) :
    Yields IsInside (shapeStyle shape place ms).result := by
  refine Styled.yields_bind_of (yields_fill tidyFill) fun fill hf => ?_
  refine Styled.yields_bind_of (yields_stroke tidyStroke) fun stroke hst => ?_
  refine Styled.yields_bind_of (yields_effects tidyEffects) fun effects he => ?_
  refine Styled.yields_bind_of (yields_box ms _ _) fun box hb => yields_ok ?_
  simp only [isFree_append, hs, hf, hst, he, hb, and_self]

/-- A frame with a tidy fill, stroke and effects. -/
theorem yields_frameStyle (tidyFill : IsTidyFill (ms.get "fill"))
    (tidyStroke : IsTidyStroke (ms.get "stroke")) (tidyEffects : AreTidyEffects (ms.get "effect")) :
    Yields IsInside (frameStyle place ms).result := by
  refine Styled.yields_bind_of (yields_layoutOf ms _) fun layout hl => ?_
  have shape : IsInside ("box-sizing: border-box;" ++ layout) := by
    simp +decide only [isFree_append, hl, and_self]
  exact yields_shapeStyle place shape tidyFill tidyStroke tidyEffects

/-- A group is drawn without a fill, so that only its effects have to be tidy. -/
theorem yields_groupStyle (tidyEffects : AreTidyEffects (ms.get "effect")) :
    Yields IsInside (groupStyle place ms).result := by
  unfold groupStyle
  extract_lets finish
  have finished (layout : String) (hl : IsInside layout) : Yields IsInside (finish layout).result := by
    refine Styled.yields_bind_of (yields_sizing ms _) fun size hs => ?_
    refine Styled.yields_bind_of (yields_freePosition place ms) fun position hp => ?_
    refine Styled.yields_bind_of (yields_effects tidyEffects) fun effects he => ?_
    refine Styled.yields_bind_of (yields_opacity _) fun opacity ho => yields_ok ?_
    simp +decide only [isFree_append, hl, hs, hp, he, ho, and_self]
  split
  · exact Styled.yields_bind_of (yields_layoutOf ms _) finished
  · exact finished "" isFree_empty

/-- A line is its stroke. -/
theorem yields_lineStyle (tidyStroke : IsTidyStroke (ms.get "stroke")) :
    Yields IsInside (lineStyle place ms).result := by
  refine Styled.yields_bind fun width _ => ?_
  refine Styled.yields_bind_of (yields_strokeColor (by decide) rfl tidyStroke) fun color hc => ?_
  refine Styled.yields_bind_of (yields_sizing ms _) fun size hs => ?_
  refine Styled.yields_bind_of (yields_freePosition place ms) fun position hp => yields_ok ?_
  simp +decide only [isFree_append, isInside_toString, hc, hs, hp, and_self]

/-- The colours of a picture are attributes, not declarations; only its effects have to be tidy. -/
theorem yields_pictureStyle (tidyEffects : AreTidyEffects (ms.get "effect")) :
    Yields IsInside (pictureStyle place ms).result := by
  refine Styled.yields_bind_of (yields_sizing ms _) fun size hs => ?_
  refine Styled.yields_bind_of (yields_freePosition place ms) fun position hp => ?_
  refine Styled.yields_bind_of (yields_effects tidyEffects) fun effects he => yields_ok ?_
  simp only [isFree_append, hs, hp, he, and_self]

/-- An icon is a letter of a font, with the colour of a text and a size in numbers. -/
theorem yields_iconStyle (tidyFill : IsTidyTextFill (ms.get "fill")) (width height : Binary64) :
    Yields IsInside (iconStyle place ms width height).result := by
  refine Styled.yields_bind_of (yields_textFill tidyFill) fun color hc => ?_
  refine Styled.yields_bind_of (yields_freePosition place ms) fun position hp => yields_ok ?_
  simp +decide only [isFree_append, isInside_numberText, hc, hp, and_self]

end

end Pagewright.Pen
