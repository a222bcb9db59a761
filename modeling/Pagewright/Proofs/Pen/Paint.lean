import Pagewright.Proofs.Pen.Inside

/-!
# Pagewright.Proofs.Pen.Paint

Fills, strokes and effects stay inside their rule, if none of their colours and addresses is loose.
-/

namespace Pagewright.Pen

/-! ## fills -/

/-- A record of a fill of some type that does not take over a loose colour. -/
structure IsTidyPaint (ms : Members) (type : Value) : Prop where
  color : type = .str "color" → isLooseColor (ms.get "color") = false
  stops : type = .str "gradient" → ∀ stops, ms.get "colors" = .list stops →
    ∀ stop ∈ stops.filterMap Value.members?, isLooseColor (Members.get "color" stop) = false

/-- A record of a fill of some type that takes over neither a loose colour nor a loose address. -/
structure IsTidyRecord (ms : Members) (type : Value) : Prop extends IsTidyPaint ms type where
  address : type = .str "image" → isLooseAddress (ms.get "url") = false

/-- A fill among others that takes over neither loose colours nor a loose address. -/
def IsTidyLayer : Value → Prop
  | .str s => isLooseColor (.str s) = false
  | .obj ms => ¬isDisabled ms → IsTidyRecord ms ((Members.get? "type" ms).getD (.str "color"))
  | _ => True

/-- A fill that takes over neither loose colours nor loose addresses. -/
def IsTidyFill : Value → Prop
  | .str s => isLooseColor (.str s) = false
  | .list fills => ∀ fill ∈ fills, IsTidyLayer fill
  | .obj ms => ¬isDisabled ms → IsTidyRecord ms (Members.get "type" ms)
  | _ => True

/-- A fill of a text that does not take over loose colours. -/
def IsTidyTextFill : Value → Prop
  | .str s => isLooseColor (.str s) = false
  | .obj ms => IsTidyPaint ms (Members.get "type" ms)
  | .list (first :: _) => IsTidyTextFill first
  | _ => True

/-- A colour that is looked up with a default is tight if both are. -/
theorem isLooseColor_getD {ms : Members} {key : String} {default : Value}
    (tight : isLooseColor (ms.get key) = false) (usual : isLooseColor default = false) :
    isLooseColor ((ms.get? key).getD default) = false := by
  unfold Members.get at tight
  cases h : ms.get? key with
  | none => exact usual
  | some v => simpa [h] using tight

/-- A rounded number is written with digits, a sign and a point. -/
theorem yields_roundText (x : Binary64) : Yields IsInside (roundText x) := by
  unfold roundText
  split
  · exact yields_ok (isInside_toString _)
  · exact yields_error _
  · exact yields_error _

/-- A stop of a gradient is a colour and a percentage, and only the colour could be loose. -/
theorem yields_gradientStop {ms : Members} (tight : isLooseColor (ms.get "color") = false) :
    Yields IsInside (gradientStop ms).result := by
  refine Styled.yields_bind_of (yields_colorText (isLooseColor_getD tight rfl)) fun color hc => ?_
  refine Styled.yields_bind fun x? _ => ?_
  cases x? with
  | none => exact yields_ok hc
  | some x =>
      refine Styled.yields_bind_of (yields_roundText _) fun place hp => yields_ok ?_
      simp +decide only [isFree_append, hc, hp, and_self]

/-- An angle is a number. -/
theorem yields_gradientAngle (v : Value) : Yields IsInside (gradientAngle v) :=
  Yields.bind fun _ _ => yields_ok (isInside_numberText _)

/-- The three kinds of gradient put the same stops behind an angle or a fixed shape. -/
theorem yields_gradientOf (ms : Members) {stops : String} (hs : IsInside stops) :
    Yields IsInside (gradientOf ms stops).result := by
  unfold gradientOf
  split
  · refine Styled.yields_bind_of (yields_gradientAngle _) fun angle ha => yields_ok ?_
    simp +decide only [isFree_append, hs, ha, and_self]
  all_goals exact yields_ok (by simp +decide only [isFree_append, hs, and_self])

/-- A gradient stays inside its rule. -/
theorem yields_gradient? {ms : Members} {type : Value} (tidy : IsTidyPaint ms type)
    (gradient : type = .str "gradient") :
    Yields (fun g? => ∀ g ∈ g?, IsInside g) (gradient? ms).result := by
  unfold gradient?
  split
  · next colors eq =>
    have each := fun stop hs => yields_gradientStop (tidy.stops gradient colors eq stop hs)
    refine Styled.yields_bind_of (Styled.yields_mapM each) fun stops hs => ?_
    split
    · exact yields_ok (by simp)
    · have joined := IsFree.intercalate (by decide : IsInside ", ") hs
      refine Styled.yields_bind_of (yields_gradientOf ms joined) fun g hg => yields_ok ?_
      simpa using hg
  · exact yields_ok (by simp)

/-- A word from a table, or else the usual one, stays inside a rule if all of them do. -/
theorem getD_bind_lookup {table : List (String × String)} {usual : String}
    (known : ∀ entry ∈ table, IsInside entry.2) (hu : IsInside usual) (name? : Option String) :
    IsInside ((name?.bind fun name => table.lookup name).getD usual) := by
  cases name? with
  | none => exact hu
  | some name =>
      cases found : table.lookup name with
      | none => simpa [found] using hu
      | some word =>
          obtain ⟨before, behind, split, -⟩ := List.lookup_eq_some_iff.1 found
          simpa [found] using known (name, word) (by simp [split])

/-- The size of an image is a word from a table. -/
theorem yields_imageSize (ms : Members) : Yields IsInside (imageSize ms) :=
  Yields.bind fun _ _ => yields_ok (getD_bind_lookup (by decide) (by decide) _)

/-- An image is its address in quotes, which only a loose one leaves, a size, and an opacity that is cleaned. -/
theorem yields_imageFill {ms : Members} (tight : isLooseAddress (ms.get "url") = false) :
    Yields IsInside (imageFill ms).result := by
  have url := (isInside_addressText_iff _).2 tight
  unfold imageFill
  extract_lets address
  split
  · exact yields_ok isFree_empty
  · refine Styled.yields_bind_of (yields_imageSize ms) fun size hs => ?_
    extract_lets finish
    have finished (opacity : String) (ho : IsInside opacity) : Yields IsInside (finish opacity).result := by
      have address : IsInside address := url
      exact yields_ok (by simp +decide only [isFree_append, address, hs, ho, and_self])
    split
    · refine Styled.yields_bind_of (yields_valueText _) fun text ht => ?_
      exact finished _ (by simp +decide only [isFree_append, ht, and_self])
    · exact finished _ isFree_empty

/-- The colour of a fill is read as that of a stop, and may be missing. -/
theorem yields_fillColor {ms : Members} (tight : isLooseColor (ms.get "color") = false) :
    Yields IsInside (fillColor ms).result :=
  yields_colorText (isLooseColor_getD tight rfl)

/-- Layers that stay inside their rule. -/
structure Layers.IsInside (layers : Layers) : Prop where
  images : ∀ image ∈ layers.images, Pen.IsInside image
  color : Pen.IsInside layers.color

/-- One more text that stays inside its rule. -/
theorem forall_mem_concat {texts : List String} {text : String} (h : ∀ s ∈ texts, IsInside s)
    (ht : IsInside text) : ∀ s ∈ texts ++ [text], IsInside s := by
  intro s mem
  obtain mem | mem := List.mem_append.1 mem
  · exact h s mem
  · exact List.mem_singleton.1 mem ▸ ht

/-- A colour in its declaration. -/
theorem isInside_backgroundColor {color : String} (h : IsInside color) :
    IsInside ("background-color: " ++ color ++ ";") := by
  simp +decide only [isFree_append, h, and_self]

/-- One more image among the layers. -/
theorem Layers.IsInside.add {layers : Layers} (h : layers.IsInside) {image : String}
    (hi : Pen.IsInside image) : Layers.IsInside { layers with images := layers.images ++ [image] } :=
  ⟨forall_mem_concat h.images hi, h.color⟩

/-- A fill adds an image, sets the colour or is passed over, and stays inside in each case. -/
theorem Layers.yields_add {layers : Layers} (h : layers.IsInside) {fill : Value}
    (tidy : IsTidyLayer fill) : Yields Layers.IsInside (layers.add fill).result := by
  cases fill with
  | str s =>
      refine Styled.yields_bind_of (yields_colorText tidy) fun color hc => yields_ok ?_
      exact ⟨h.images, isInside_backgroundColor hc⟩
  | obj ms =>
      unfold add
      dsimp only
      split
      · exact yields_ok h
      · next enabled =>
        have tidy := tidy enabled
        split
        · next plain =>
          refine Styled.yields_bind_of (yields_fillColor (tidy.color plain)) fun color hc => yields_ok ?_
          exact ⟨h.images, isInside_backgroundColor hc⟩
        · next gradient =>
          refine Styled.yields_bind_of (yields_gradient? tidy.toIsTidyPaint gradient) fun g? hg => ?_
          cases g? with
          | none => exact yields_ok h
          | some g => exact yields_ok (h.add (hg g rfl))
        · next image =>
          have url := (isInside_addressText_iff _).2 (tidy.address image)
          split
          · exact yields_ok h
          · refine Styled.yields_bind_of (yields_imageSize ms) fun size hs => yields_ok (h.add ?_)
            simp +decide only [isFree_append, url, hs, and_self]
        · exact yields_ok h
  | _ => exact yields_ok h

/-- Layer after layer, by induction on the fills; the declarations are then made of the images and the colour.
-/
theorem yields_layeredFill {fills : List Value} (tidy : ∀ fill ∈ fills, IsTidyLayer fill) :
    Yields IsInside (layeredFill fills).result := by
  have start : Layers.IsInside ⟨[], ""⟩ := ⟨by simp, isFree_empty⟩
  have each := fun layers fill mem (h : Layers.IsInside layers) => Layers.yields_add h (tidy fill mem)
  refine Styled.yields_bind_of (Styled.yields_foldlM start each) fun layers h => yields_ok ?_
  have joined := IsFree.intercalate (by decide : IsInside ", ") h.images
  refine IsFree.append ?_ h.color
  split
  · exact isFree_empty
  · simp +decide only [isFree_append, joined, and_self]

/-- The declarations of a fill stay inside their rule. -/
theorem yields_fill {v : Value} (tidy : IsTidyFill v) : Yields IsInside (fill v).result := by
  cases v with
  | str s =>
      refine Styled.yields_bind_of (yields_colorText tidy) fun color hc => yields_ok ?_
      exact isInside_backgroundColor hc
  | list fills => exact yields_layeredFill tidy
  | obj ms =>
      unfold fill
      dsimp only
      split
      · exact yields_ok isFree_empty
      · next enabled =>
        have tidy := tidy enabled
        split
        · next plain =>
          refine Styled.yields_bind_of (yields_fillColor (tidy.color plain)) fun color hc => yields_ok ?_
          exact isInside_backgroundColor hc
        · next gradient =>
          refine Styled.yields_bind_of (yields_gradient? tidy.toIsTidyPaint gradient) fun g? hg => ?_
          cases g? with
          | none => exact yields_ok isFree_empty
          | some g =>
              have inside := hg g rfl
              exact yields_ok (by simp +decide only [isFree_append, inside, and_self])
        · next image => exact yields_imageFill (tidy.address image)
        · exact yields_ok isFree_empty
  | _ => exact yields_ok isFree_empty

/-- The fill of a text is a colour or a gradient cut out by its letters; of a list the first fill counts. -/
theorem yields_textFill {v : Value} (tidy : IsTidyTextFill v) : Yields IsInside (textFill v).result := by
  fun_induction textFill v with
  | case1 s =>
      refine Styled.yields_bind_of (yields_colorText tidy) fun color hc => yields_ok ?_
      simp +decide only [isFree_append, hc, and_self]
  | case2 ms plain =>
      have tidy : IsTidyPaint ms (Members.get "type" ms) := tidy
      refine Styled.yields_bind_of (yields_fillColor (tidy.color plain)) fun color hc => yields_ok ?_
      simp +decide only [isFree_append, hc, and_self]
  | case3 ms gradient =>
      refine Styled.yields_bind_of (yields_gradient? tidy gradient) fun g? hg => ?_
      cases g? with
      | none => exact yields_ok isFree_empty
      | some g =>
          have inside := hg g rfl
          exact yields_ok (by simp +decide only [isFree_append, inside, and_self])
  | case5 first rest ih => exact ih tidy
  | case4 | case6 => exact yields_ok isFree_empty

/-! ## strokes -/

/-- A fill of a stroke that does not take over a loose colour. -/
def IsTidyStrokeFill : Value → Prop
  | .str s => isLooseColor (.str s) = false
  | .obj ms =>
    ((Members.get? "type" ms).getD (.str "color")).isText "color" →
      isLooseColor (Members.get "color" ms) = false
  | .list (.str s :: _) => isLooseColor (.str s) = false
  | .list (.obj ms :: _) => isLooseColor (Members.get "color" ms) = false
  | _ => True

/-- The colour of a stroke comes from a text, from a record, or from the first fill of a list. -/
theorem yields_strokeColor? {default fill : Value} (usual : isLooseColor default = false)
    (tidy : IsTidyStrokeFill fill) :
    Yields (fun color? => ∀ color ∈ color?, IsInside color) (strokeColor? default fill).result := by
  have some_of {color : Value} (tight : isLooseColor color = false) :
      Yields (fun color? => ∀ color ∈ color?, IsInside color) (some <$> colorText color).result :=
    Styled.yields_bind_of (yields_colorText tight) fun text ht => yields_ok (by simpa using ht)
  unfold strokeColor?
  split
  · exact some_of tidy
  · split
    · next plain => exact some_of (isLooseColor_getD (tidy plain) usual)
    · exact yields_ok (by simp)
  · exact some_of tidy
  · next ms rest =>
    have tight : isLooseColor (Members.get "color" ms) = false := tidy
    split
    · next color eq =>
      rw [Members.get, eq] at tight
      exact some_of tight
    · exact yields_ok (by simp)
  · exact yields_ok (by simp)

/-- The colour of a stroke, or the usual one where there is none. -/
theorem yields_strokeColor {usual : String} (hu : IsInside usual)
    (tight : isLooseColor (.str usual) = false) {fill : Value} (tidy : IsTidyStrokeFill fill) :
    Yields IsInside (strokeColor usual fill).result := by
  refine Styled.yields_bind_of (yields_strokeColor? tight tidy) fun color? hc => yields_ok ?_
  cases color? with
  | none => exact hu
  | some color => exact hc color rfl

/-- The thickness of a side is cleaned as any other value; style and colour are given. -/
theorem yields_sideBorder (thickness : Members) {style color side : String} (hs : IsInside style)
    (hc : IsInside color) (hside : IsInside side) :
    Yields IsInside (sideBorder thickness style color side).result := by
  refine Styled.yields_bind fun x? _ => ?_
  cases x? with
  | none => exact yields_ok isFree_empty
  | some x =>
      dsimp only
      split
      · refine Styled.yields_bind_of (yields_valueText _) fun width hw => yields_ok ?_
        simp +decide only [isFree_append, hs, hc, hside, hw, and_self]
      · exact yields_ok isFree_empty

/-- A stroke that does not take over a loose colour. -/
def IsTidyStroke (v : Value) : Prop := IsTidyStrokeFill (Members.get "fill" (v.members?.getD []))

/-- The declarations of a stroke stay inside their rule. -/
theorem yields_stroke {v : Value} (tidy : IsTidyStroke v) : Yields IsInside (stroke v).result := by
  unfold stroke
  split
  · exact yields_ok isFree_empty
  · next ms _ =>
    have tidy : IsTidyStrokeFill (Members.get "fill" ms) := tidy
    refine Styled.yields_bind_of (yields_strokeColor (by decide) rfl tidy) fun color hc => ?_
    extract_lets style
    have hs : IsInside style := by
      unfold style
      split <;> decide
    split
    · next thickness _ =>
      have each : ∀ side ∈ ["top", "right", "bottom", "left"],
          Yields IsInside (sideBorder thickness style color side).result := by
        have sides : ∀ side ∈ ["top", "right", "bottom", "left"], IsInside side := by decide
        exact fun side mem => yields_sideBorder thickness hs hc (sides side mem)
      exact Styled.yields_bind_of (Styled.yields_mapM each) fun borders hb => yields_ok (.join hb)
    · refine Styled.yields_bind_of (yields_valueText _) fun width hw => ?_
      split
      · exact yields_ok isFree_empty
      · exact yields_ok (by simp +decide only [isFree_append, hs, hc, hw, and_self])
  · exact yields_ok isFree_empty

/-! ## effects -/

/-- An effect that does not take over a loose colour. -/
def IsTidyEffect : Value → Prop
  | .obj ms =>
    ¬isDisabled ms → Members.get "type" ms = .str "shadow" →
      isLooseColor (Members.get "color" ms) = false
  | _ => True

/-- Effects that do not take over loose colours. -/
def AreTidyEffects : Value → Prop
  | .list vs => ∀ v ∈ vs, IsTidyEffect v
  | v => IsTidyEffect v

/-- Effects that stay inside their rule. -/
structure Effects.IsInside (effects : Effects) : Prop where
  shadows : ∀ s ∈ effects.shadows, Pen.IsInside s
  filters : ∀ s ∈ effects.filters, Pen.IsInside s
  backdrops : ∀ s ∈ effects.backdrops, Pen.IsInside s

/-- The lengths of a shadow are cleaned, so only its colour could be loose. -/
theorem yields_shadow {ms : Members} (tight : isLooseColor (ms.get "color") = false) :
    Yields IsInside (shadow ms).result := by
  refine Styled.yields_bind_of (yields_valueText _) fun x hx => ?_
  refine Styled.yields_bind_of (yields_valueText _) fun y hy => ?_
  refine Styled.yields_bind_of (yields_valueText _) fun blur hb => ?_
  refine Styled.yields_bind_of (yields_valueText _) fun spread hs => ?_
  refine Styled.yields_bind_of (yields_colorText (isLooseColor_getD tight rfl)) fun color hc => ?_
  refine yields_ok ?_
  have inset : IsInside (if (ms.get "shadowType").isText "inner" then "inset " else "") := by
    split <;> decide
  simp +decide only [isFree_append, inset, hx, hy, hb, hs, hc, and_self]

/-- The radius of a blur is cleaned. -/
theorem yields_blur (ms : Members) : Yields IsInside (blur ms).result := by
  refine Styled.yields_bind_of (yields_valueText _) fun radius hr => yields_ok ?_
  simp +decide only [isFree_append, hr, and_self]

/-- An effect adds to the shadows, the filters or the backdrops, or it is passed over. -/
theorem Effects.yields_add {effects : Effects} (h : effects.IsInside) {v : Value}
    (tidy : IsTidyEffect v) : Yields Effects.IsInside (effects.add v).result := by
  cases v with
  | obj ms =>
      unfold add
      dsimp only
      split
      · exact yields_ok h
      · next enabled =>
        split
        · next drop =>
          refine Styled.yields_bind_of (yields_shadow (tidy enabled drop)) fun s hs => yields_ok ?_
          exact { h with shadows := forall_mem_concat h.shadows hs }
        · refine Styled.yields_bind_of (yields_blur ms) fun s hs => yields_ok ?_
          exact { h with filters := forall_mem_concat h.filters hs }
        · refine Styled.yields_bind_of (yields_blur ms) fun s hs => yields_ok ?_
          exact { h with backdrops := forall_mem_concat h.backdrops hs }
        · exact yields_ok h
  | _ => exact yields_ok h

/-- The three groups of effects are joined in a declaration each. -/
theorem Effects.IsInside.text {effects : Effects} (h : effects.IsInside) :
    Pen.IsInside effects.text := by
  have comma : Pen.IsInside ", " := by decide
  have blank : Pen.IsInside " " := by decide
  have shadows := IsFree.intercalate comma h.shadows
  have filters := IsFree.intercalate blank h.filters
  have backdrops := IsFree.intercalate blank h.backdrops
  unfold Effects.text
  refine (IsFree.append ?_ ?_).append ?_
  all_goals split
  all_goals simp +decide only [isFree_append, shadows, filters, backdrops, and_self]

/-- The declarations of effects stay inside their rule. -/
theorem yields_effects {v : Value} (tidy : AreTidyEffects v) :
    Yields IsInside (effects v).result := by
  have start : Effects.IsInside ⟨[], [], []⟩ := ⟨by simp, by simp, by simp⟩
  cases v with
  | obj ms => exact Styled.yields_bind_of (Effects.yields_add start tidy) fun e he => yields_ok he.text
  | list vs =>
      have each := fun e v mem (he : Effects.IsInside e) => Effects.yields_add he (tidy v mem)
      exact Styled.yields_bind_of (Styled.yields_foldlM start each) fun e he => yields_ok he.text
  | _ => exact yields_ok isFree_empty

end Pagewright.Pen
