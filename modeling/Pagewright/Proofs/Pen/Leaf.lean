import Pagewright.Proofs.Pen.Grammar
import Pagewright.Proofs.Pen.RawFree

/-!
# Pagewright.Proofs.Pen.Leaf

Nodes without children are drawn as markup.  Whatever a node says arrives in a text or in an attribute
either escaped, or as a written number, or with hyphens for the characters that class names do not have.
-/

namespace Pagewright.Pen

open Markup

/-! ## attributes -/

/-- The attribute of a plain class is proper. -/
theorem areProper_class {cls : String} (h : IsPlain cls) : AreProper [classAttribute cls] :=
  areProper_nil.cons "class" (by decide) h

/-- The class of a node is plain if the start of all classes is, since its id is filtered. -/
theorem isPlain_className {vocabulary : Vocabulary} (start : IsPlain vocabulary.classStart)
    (ms : Members) : IsPlain (vocabulary.className ms) :=
  start.append (isPlain_classText _)

/-! ## content -/

/-- An escaped text in lines is drawn as texts with breaks between them; cutting at a line feed leaves the
escapes whole. -/
theorem isDrawn_lines (cs : List Char) : IsDrawn (lines (escapeChars cs)) := by
  have plain : ∀ part ∈ Text.split '\n' (escapeChars cs), ∀ c ∈ part, isMarkupChar c = false := by
    intro part hp c hc
    exact isMarkupChar_of_mem_escapeChars (Text.mem_of_mem_split hp hc)
  unfold lines
  cases eq : Text.split '\n' (escapeChars cs) with
  | nil => exact isDrawn_nil
  | cons first rest =>
      rw [eq] at plain
      have start : IsDrawn [.text (String.ofList first)] :=
        isDrawn_text (isPlain_ofList (plain first (by simp)))
      refine start.append ?_
      refine isDrawn_flatten fun ts hts => ?_
      obtain ⟨line, hl, rfl⟩ := List.mem_map.1 hts
      have broken : IsDrawn [.void "br" []] := isDrawn_void (by decide) areProper_nil
      refine broken.append (isDrawn_text (isPlain_ofList fun c hc => ?_))
      obtain rfl | hc := List.mem_cons.1 hc
      · decide
      · exact plain line (List.mem_cons_of_mem first hl) c hc

/-- The styles of a run are escaped, and there is no attribute without any. -/
theorem areProper_style (style : String) :
    AreProper (if style.isEmpty then [] else [⟨"style", escape style⟩]) := by
  split
  · exact areProper_nil
  · exact areProper_nil.cons "style" (by decide) (isPlain_escape style)

/-- A run is a link, a span or a text, and what stands in it is escaped. -/
theorem yields_run (defaults : Defaults) (ms : Members) :
    Yields (fun t => IsDrawn [t]) (run defaults ms).result := by
  refine Styled.yields_bind fun type _ => Styled.yields_bind fun fill _ => ?_
  extract_lets style styles
  have inner (s : String) : IsDrawn [.text (escape s)] := isDrawn_text (isPlain_escape s)
  have proper : AreProper styles := areProper_style style
  split
  · next href _ =>
    have link := proper.cons "href" (by decide) (isPlain_escape href)
    exact yields_ok (isDrawn_element (by decide) link (inner _))
  · split
    · exact yields_ok (inner _)
    · exact yields_ok (isDrawn_element (by decide) proper (inner _))

/-- A part of a content is a text or a run; anything else is not drawn. -/
theorem yields_part (defaults : Defaults) (v : Value) : Yields IsDrawn (part defaults v).result := by
  cases v with
  | str s => exact yields_ok (isDrawn_text (isPlain_escape _))
  | obj ms => exact Styled.yields_bind fun t eq => yields_ok (yields_run defaults ms t eq)
  | _ => exact yields_ok isDrawn_nil

/-- The content of a text that is not raw is drawn as markup. -/
theorem yields_content (defaults : Defaults) (v : Value) :
    Yields IsDrawn (content defaults false v).result := by
  cases v with
  | null => exact yields_ok isDrawn_nil
  | str s =>
      simp only [content, Bool.false_eq_true, if_false]
      split
      · exact yields_ok isDrawn_nil
      · exact yields_ok (isDrawn_lines _)
  | list vs =>
      refine Styled.yields_bind fun tss eq => yields_ok (isDrawn_flatten ?_)
      exact Styled.yields_mapM (fun v _ => yields_part defaults v) tss eq
  | _ => exact yields_ok (isDrawn_text (isPlain_escaped _))

/-! ## tags -/

/-- A tag that is looked up in a table, with a default, is known if all of these are. -/
theorem getD_find?_mem {α : Type} {table : List α} {tagOf : α → String} {default : String}
    (known : ∀ entry ∈ table, tagOf entry ∈ elementTags) (usual : default ∈ elementTags)
    (p : α → Bool) : ((table.find? p).map tagOf).getD default ∈ elementTags := by
  cases eq : table.find? p with
  | none => exact usual
  | some entry => exact known entry (List.mem_of_find?_eq_some eq)

/-- The name of a frame chooses among known tags. -/
theorem frameTag_mem (name : Value) : frameTag name ∈ elementTags :=
  getD_find?_mem (by decide) (by decide) _

/-- The size and weight of a text choose a heading, or there is a paragraph. -/
theorem yields_textTag (ms : Members) : Yields (· ∈ elementTags) (textTag ms) := by
  refine Yields.bind fun size? _ => ?_
  cases size? with
  | none => exact yields_ok (by decide)
  | some size =>
      exact Yields.bind fun weight _ => yields_ok (getD_find?_mem (by decide) (by decide) _)

/-! ## drawn shapes -/

/-- A number is written without markup, and so is the zero in place of a missing one. -/
theorem isPlain_elim_numberText (x? : Option Binary64) : IsPlain (x?.elim "0" numberText) := by
  cases x? with
  | none => decide
  | some x => exact isPlain_numberText x

/-- The colour of a stroke is escaped, and its width is a number. -/
theorem yields_strokeAttributes (v : Value) :
    Yields AreProper (strokeAttributes v).result := by
  unfold strokeAttributes
  split
  · refine Styled.yields_bind fun color _ => Styled.yields_bind fun width _ => yields_ok ?_
    have width := areProper_nil.cons "stroke-width" (by decide) (isPlain_elim_numberText width)
    exact width.cons "stroke" (by decide) (isPlain_escape color)
  · exact yields_ok (areProper_nil.cons "stroke" (by decide) (by decide))

/-- The points of a polygon are numbers with commas and blanks. -/
theorem isPlain_polygonPoints (sides : Nat) (width height : Binary64) :
    IsPlain (polygonPoints sides width height) := by
  refine IsPlain.intercalate (by decide) fun point h => ?_
  obtain ⟨index, -, rfl⟩ := List.mem_map.1 h
  have comma : IsPlain "," := by decide
  exact ((isPlain_numberText _).append comma).append (isPlain_numberText _)

/-- What a picture shows: a polygon or a path. -/
def IsOutline (t : Tree) : Prop :=
  ∃ tag as, t = .closed tag as ∧ tag ∈ pictureTags ∧ AreProper as

/-- A polygon has known attributes, which hold its points, its colour and its stroke. -/
theorem yields_polygonOutline (ms : Members) (width height : Binary64) :
    Yields IsOutline (polygonOutline ms width height).result := by
  refine Styled.yields_bind fun sides _ => Styled.yields_bind fun fill _ => ?_
  refine Styled.yields_bind fun stroke eq => yields_ok ⟨_, _, rfl, by decide, ?_⟩
  have points := isPlain_polygonPoints (clampSides ((sides.bind Binary64.truncate?).getD 6)) width height
  have stroke := yields_strokeAttributes (ms.get "stroke") stroke eq
  have filled := stroke.cons "fill" (by decide) (isPlain_escape fill)
  exact filled.cons "points" (by decide) points

/-- The fill rule of a path is one of two words. -/
theorem isPlain_fillRule (v : Value) : IsPlain (fillRule v) := by
  unfold fillRule
  split <;> decide

/-- A path has its shape escaped, as it comes from the document. -/
theorem yields_pathOutline (ms : Members) : Yields IsOutline (pathOutline ms).result := by
  refine Styled.yields_bind fun fill _ => ?_
  refine Styled.yields_bind fun stroke eq => yields_ok ⟨_, _, rfl, by decide, ?_⟩
  have stroke := yields_strokeAttributes (ms.get "stroke") stroke eq
  have ruled := stroke.cons "fill-rule" (by decide) (isPlain_fillRule (ms.get "fillRule"))
  have filled := ruled.cons "fill" (by decide) (isPlain_escape fill)
  exact filled.cons "d" (by decide) (isPlain_escape _)

/-! ## icons -/

/-- An icon has its name in its class or as its text, according to its family, which is escaped too. -/
theorem isDrawn_iconElement {cls name : String} (family : String) (hc : IsPlain cls)
    (hn : IsPlain name) : IsDrawn [iconElement cls family name] := by
  unfold iconElement
  split
  · have blank : IsPlain " " := by decide
    have classes := ((hc.append blank).append (isPlain_escape family)).append blank
    exact isDrawn_element (by decide)
      (areProper_class (classes.append (isPlain_classText family))) (isDrawn_text hn)
  · extract_lets classes
    have classes : IsPlain classes := by
      unfold classes
      split
      · decide
      · split <;> decide
    exact isDrawn_element (by decide) (areProper_class ((hc.append classes).append hn)) isDrawn_nil

/-! ## nodes -/

section

variable {vocabulary : Vocabulary} (start : IsPlain vocabulary.classStart) (place : Place)
include start

/-- A text is drawn as its content in a known tag; it is here that the text must not be raw. -/
theorem yields_text {ms : Members} (free : MembersRawFree ms) :
    Yields IsDrawn (text vocabulary place ms).result := by
  have cls := isPlain_className start ms
  refine Drawing.yields_bind fun style _ => Drawing.yields_bind fun _ _ => ?_
  refine Drawing.yields_bind fun inner eq => ?_
  rw [isRaw_eq_false free] at eq
  have inside := yields_content _ _ inner eq
  split
  · next href _ =>
    have link := (areProper_class cls).cons "href" (by decide) (isPlain_escape href)
    exact yields_ok (isDrawn_element (by decide) link inside)
  · refine Drawing.yields_bind fun tag eq => yields_ok ?_
    exact isDrawn_element (yields_textTag ms tag eq) (areProper_class cls) inside

/-- A shape is an empty element with a class. -/
theorem yields_shape (declarations : String) (ms : Members) :
    Yields IsDrawn (shape vocabulary place declarations ms).result := by
  refine Drawing.yields_bind fun style _ => Drawing.yields_bind fun _ _ => yields_ok ?_
  exact isDrawn_element (by decide) (areProper_class (isPlain_className start ms)) isDrawn_nil

/-- A line is a rule with a class. -/
theorem yields_line (ms : Members) : Yields IsDrawn (line vocabulary place ms).result := by
  refine Drawing.yields_bind fun style _ => Drawing.yields_bind fun _ _ => yields_ok ?_
  exact isDrawn_void (by decide) (areProper_class (isPlain_className start ms))

/-- A picture is its outline in an element with a class and two sizes. -/
theorem yields_picture (ms : Members) {outline : Binary64 → Binary64 → Styled Tree}
    (known : ∀ width height, Yields IsOutline (outline width height).result) :
    Yields IsDrawn (picture vocabulary place ms outline).result := by
  refine Drawing.yields_bind fun width _ => Drawing.yields_bind fun height _ => ?_
  refine Drawing.yields_bind fun t eq => ?_
  obtain ⟨tag, as, rfl, shown, proper⟩ := known width height t eq
  refine Drawing.yields_bind fun style _ => Drawing.yields_bind fun _ _ => yields_ok ?_
  have w := isPlain_numberText width
  have h := isPlain_numberText height
  have origin : IsPlain "0 0 " := by decide
  have blank : IsPlain " " := by decide
  have box := ((origin.append w).append blank).append h
  have sizes := (areProper_nil.cons "height" (by decide) h).cons "width" (by decide) w
  have frame := (sizes.cons "viewBox" (by decide) box).cons "class" (by decide)
    (isPlain_className start ms)
  exact isDrawn_picture frame shown proper

/-- The name of an icon is escaped before its element is made. -/
theorem yields_icon (ms : Members) : Yields IsDrawn (icon vocabulary place ms).result := by
  refine Drawing.yields_bind fun name _ => ?_
  refine Drawing.yields_bind fun width _ => Drawing.yields_bind fun height _ => ?_
  refine Drawing.yields_bind fun _ _ => Drawing.yields_bind fun style _ => ?_
  refine Drawing.yields_bind fun _ _ => yields_ok ?_
  exact isDrawn_iconElement _ (isPlain_className start ms) (isPlain_escape name)

end

end Pagewright.Pen
