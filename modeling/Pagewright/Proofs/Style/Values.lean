import Pagewright.Proofs.Fault.Yields
import Pagewright.Proofs.Text.Free
import Pagewright.Style.Cascade

/-!
# Pagewright.Proofs.Style.Values

What the values of declarations are written with.  Colours, lengths, numbers, units and choices have only
letters, digits, blanks and a few marks, whatever the style data is; the only value with more than that is the
address of a background image.
-/

namespace Pagewright

namespace Style

open Text

/-! ## characters of values -/

/-- The characters that values are written with. -/
def isValueChar (c : Char) : Bool :=
  c.isAlphanum || isDecimal c || isBlank c || "#(),.%+-".toList.contains c

/-- A text with nothing but characters of values. -/
def IsValue (s : String) : Prop := IsFree (fun c => !isValueChar c) s

instance (s : String) : Decidable (IsValue s) := inferInstanceAs (Decidable (IsFree _ s))

theorem isValue_iff {s : String} : IsValue s ↔ ∀ c ∈ s.toList, isValueChar c = true := by
  simp only [IsValue, IsFree, Bool.not_eq_false']

/-- A value is free of whatever is no character of values. -/
theorem IsValue.isFree {p : Char → Bool} {s : String} (h : IsValue s)
    (other : ∀ c, p c = true → isValueChar c = false) : IsFree p s :=
  h.mono fun c hc => by rw [other c hc]; rfl

/-- Digits, of whatever script, may stand in values. -/
theorem isValueChar_of_isDecimal {c : Char} (h : isDecimal c = true) : isValueChar c = true := by
  simp [isValueChar, h]

/-- Blanks may stand in values, as they do between the channels of a colour. -/
theorem isValueChar_of_isBlank {c : Char} (h : isBlank c = true) : isValueChar c = true := by
  simp [isValueChar, h]

/-- Hexadecimal digits are letters or digits. -/
theorem isValueChar_of_isHexDigit {c : Char} (h : isHexDigit c = true) : isValueChar c = true := by
  have ranges : c.isAlphanum = (decide ('A' ≤ c ∧ c ≤ 'Z') || ('a' ≤ c && c ≤ 'z') || c.isDigit) := rfl
  have alphanum : c.isAlphanum = true := by
    simp only [ranges, isHexDigit, Bool.or_eq_true, Bool.and_eq_true, decide_eq_true_eq] at h ⊢
    obtain (digit | lower) | upper := h
    · exact .inr digit
    · exact .inl (.inr ⟨lower.1, Char.le_trans lower.2 (by decide)⟩)
    · exact .inl (.inl ⟨upper.1, Char.le_trans upper.2 (by decide)⟩)
  simp [isValueChar, alphanum]

/-- Whatever a numeral is written with may stand in a value. -/
theorem isValueChar_of_isNumeralChar {c : Char} (h : isNumeralChar c = true) : isValueChar c = true := by
  simp only [isNumeralChar, Bool.or_eq_true, beq_iff_eq] at h
  obtain (((digit | rfl) | rfl) | rfl) | rfl := h
  · simp [isValueChar, Char.isAlphanum, digit]
  all_goals decide

/-! ## texts read from the front -/

/-- Besides what is left of it, a text has only characters of values. -/
def Leaves (cs rest : List Char) : Prop := ∀ c ∈ cs, isValueChar c = true ∨ c ∈ rest

variable {cs rest left : List Char}

/-- One reader after the other takes characters of values only if both do. -/
theorem Leaves.trans (h : Leaves cs rest) (h' : Leaves rest left) : Leaves cs left := by
  intro c hc
  rcases h c hc with value | hc
  · exact .inl value
  · exact h' c hc

/-- A reader that skips characters of values leaves what comes behind them. -/
theorem leaves_dropWhile {p : Char → Bool} (h : ∀ c, p c = true → isValueChar c = true) (cs : List Char) :
    Leaves cs (cs.dropWhile p) := by
  intro c hc
  rw [← List.takeWhile_append_dropWhile (p := p) (l := cs), List.mem_append] at hc
  exact hc.imp_left fun taken => h c (List.mem_takeWhile_imp taken)

/-- A reader that takes a given text in front takes characters of values only if the text has no others. -/
theorem leaves_of_append {front : List Char} (h : ∀ c ∈ front, isValueChar c = true) :
    Leaves (front ++ rest) rest :=
  fun c hc => (List.mem_append.1 hc).imp_left (h c)

/-- One character taken from the front. -/
theorem leaves_cons {c : Char} (h : isValueChar c = true) : Leaves (c :: rest) rest := by
  have front : ∀ d ∈ [c], isValueChar d = true := List.forall_mem_singleton.2 h
  exact leaves_of_append front

/-- A reader that expects a text takes that text and nothing else. -/
theorem leaves_of_after? {text : List Char} (h : ∀ c ∈ text, isValueChar c = true)
    (found : after? text cs = some rest) : Leaves cs rest := by
  rw [after?_eq_some_iff] at found
  exact found ▸ leaves_of_append h

/-- A reader that expects a character takes that one. -/
theorem leaves_of_expect? {c : Char} (h : isValueChar c = true) (found : expect? c cs = some rest) :
    Leaves cs rest := by
  cases cs with
  | nil => cases found
  | cons d cs =>
      rw [expect?, Option.ite_none_right_eq_some, Option.some.injEq] at found
      obtain ⟨rfl, rfl⟩ := found
      exact leaves_cons h

/-- A character that may be missing. -/
theorem leaves_getD_expect? {c : Char} (h : isValueChar c = true) (cs : List Char) :
    Leaves cs ((expect? c cs).getD cs) := by
  cases found : expect? c cs with
  | none => exact fun _ hc => .inr hc
  | some rest => exact leaves_of_expect? h found

/-- If at most a line feed is left at the end, all characters are those of values. -/
theorem Leaves.of_atEnd (h : Leaves cs rest) (done : atEnd rest = true) : ∀ c ∈ cs, isValueChar c = true := by
  have last : rest.all isValueChar = true := by
    simp only [atEnd, Bool.or_eq_true, beq_iff_eq] at done
    obtain rfl | rfl := done <;> decide
  exact fun c hc => (h c hc).elim id (List.all_eq_true.1 last c)

/-! ## colours -/

/-- A colour by hexadecimal digits is a hash sign with digits. -/
theorem isValueChar_of_isHexColor (h : isHexColor cs = true) : ∀ c ∈ cs, isValueChar c = true := by
  unfold isHexColor at h
  split at h
  · next digits =>
    rw [Bool.and_eq_true] at h
    have hash : isValueChar '#' = true := by decide
    exact ((leaves_cons hash).trans (leaves_dropWhile (fun _ => isValueChar_of_isHexDigit) digits)).of_atEnd h.2
  · cases h

/-- Skipping blanks. -/
theorem leaves_blanks (cs : List Char) : Leaves cs (cs.dropWhile isBlank) :=
  leaves_dropWhile (fun _ => isValueChar_of_isBlank) cs

/-- Skipping a row of digits. -/
theorem leaves_decimals (cs : List Char) : Leaves cs (cs.dropWhile isDecimal) :=
  leaves_dropWhile (fun _ => isValueChar_of_isDecimal) cs

/-- A channel is a row of digits with blanks around it. -/
theorem leaves_of_channel? {digits : List Char} (h : channel? cs = some (digits, rest)) : Leaves cs rest := by
  simp only [channel?, Option.ite_none_left_eq_some, Option.some.injEq, Prod.mk.injEq] at h
  obtain ⟨-, -, rfl⟩ := h
  exact ((leaves_blanks _).trans (leaves_decimals _)).trans (leaves_blanks _)

/-- An opacity is a decimal fraction with blanks around it. -/
theorem leaves_of_alpha? {digits : List Char} (h : alpha? cs = some (digits, rest)) : Leaves cs rest := by
  have whole := (leaves_blanks cs).trans (leaves_decimals _)
  unfold alpha? at h
  simp only at h
  split at h
  · next behind eq =>
    rw [eq] at whole
    simp only [Option.ite_none_left_eq_some, Option.some.injEq, Prod.mk.injEq] at h
    obtain ⟨-, -, rfl⟩ := h
    exact ((whole.trans (leaves_cons (by decide))).trans (leaves_decimals _)).trans (leaves_blanks _)
  · simp only [Option.ite_none_left_eq_some, Option.some.injEq, Prod.mk.injEq] at h
    obtain ⟨-, -, rfl⟩ := h
    exact whole.trans (leaves_blanks _)

/-- The channels, with the letters in front of them, their brackets and their commas, take up the whole text. -/
theorem isValueChar_of_channels? {channels : List (List Char) × Option (List Char)}
    (h : channels? cs = some channels) : ∀ c ∈ cs, isValueChar c = true := by
  have comma {cs rest : List Char} (found : expect? ',' cs = some rest) : Leaves cs rest :=
    leaves_of_expect? (by decide) found
  have closed {cs rest : List Char} (found : expect? ')' cs = some rest) : Leaves cs rest :=
    leaves_of_expect? (by decide) found
  simp only [channels?, Option.bind_eq_bind, Option.bind_eq_some_iff, Prod.exists] at h
  obtain ⟨name, begins, inner, opened, _, red, hred, h⟩ := h
  obtain ⟨_, comma₁, _, green, hgreen, _, comma₂, _, blue, hblue, h⟩ := h
  have letters : ['r', 'g', 'b'].all isValueChar = true := by decide
  have three : Leaves cs blue :=
    ((leaves_of_after? (List.all_eq_true.1 letters) begins).trans (leaves_getD_expect? (by decide) name)).trans
      (leaves_of_expect? (by decide) opened) |>.trans (leaves_of_channel? hred) |>.trans (comma comma₁)
      |>.trans (leaves_of_channel? hgreen) |>.trans (comma comma₂) |>.trans (leaves_of_channel? hblue)
  split at h
  · next found =>
    simp only [Option.bind_eq_some_iff, Prod.exists, Option.ite_none_right_eq_some] at h
    obtain ⟨_, _, halpha, left, hclose, done, -⟩ := h
    exact ((three.trans (comma found)).trans (leaves_of_alpha? halpha)).trans (closed hclose) |>.of_atEnd done
  · simp only [Option.bind_eq_some_iff, Option.ite_none_right_eq_some] at h
    obtain ⟨left, hclose, done, -⟩ := h
    exact (three.trans (closed hclose)).of_atEnd done

/-- A colour is a hash with digits in base sixteen, or its channels. -/
theorem isValue_of_isColor {s : String} (h : isColor s = true) : IsValue s := by
  rw [isValue_iff]
  rw [isColor, Bool.or_eq_true] at h
  cases h with
  | inl hex => exact isValueChar_of_isHexColor hex
  | inr rgb =>
      unfold isRgbColor at rgb
      split at rgb
      · next found => exact isValueChar_of_channels? found
      · cases rgb

/-! ## lengths -/

/-- The fraction of a number is a point with digits behind it, or nothing. -/
theorem leaves_afterFraction (cs : List Char) : Leaves cs (afterFraction cs) := by
  unfold afterFraction
  split
  · next c rest =>
    split
    · exact (leaves_cons (by decide)).trans (leaves_decimals _)
    · exact fun _ hc => .inr hc
  · exact fun _ hc => .inr hc

/-- Units are letters or the percent sign. -/
theorem isValue_of_mem_units : ∀ unit ∈ units, IsValue unit := by decide

/-- A measure is a number with a unit behind it, and perhaps a sign in front. -/
theorem isValueChar_of_isMeasure (h : isMeasure cs = true) : ∀ c ∈ cs, isValueChar c = true := by
  simp only [isMeasure, Bool.and_eq_true, List.any_eq_true, Option.any_eq_true] at h
  obtain ⟨-, unit, mem, rest, found, done⟩ := h
  have number := ((leaves_getD_expect? (c := '-') (by decide) cs).trans (leaves_decimals _)).trans
    (leaves_afterFraction _)
  exact (number.trans (leaves_of_after? (isValue_iff.1 (isValue_of_mem_units unit mem)) found)).of_atEnd done

/-- The blanks that were taken off at the ends may stand in values as well. -/
theorem isValueChar_of_trim (h : ∀ c ∈ trim cs, isValueChar c = true) : ∀ c ∈ cs, isValueChar c = true := by
  obtain ⟨before, behind, eq, blank, blank'⟩ := exists_blanks_trim cs
  rw [eq]
  simp only [List.mem_append]
  rintro c (hc | hc | hc)
  · exact isValueChar_of_isBlank (blank c hc)
  · exact h c hc
  · exact isValueChar_of_isBlank (blank' c hc)

/-- A length is a measure or a word, with blanks around it. -/
theorem isValue_of_isDimension {s : String} (h : isDimension s = true) : IsValue s := by
  rw [isValue_iff]
  refine isValueChar_of_trim ?_
  rw [isDimension, Bool.or_eq_true, List.contains_iff_mem] at h
  cases h with
  | inl word =>
      have words : ∀ word ∈ dimensionWords, IsValue word := by decide
      have value := isValue_iff.1 (words _ word)
      rwa [trimmed, String.toList_ofList] at value
  | inr measure => exact isValueChar_of_isMeasure measure

/-- What is no unit is taken for pixels. -/
theorem isValue_unitOf (v : String) : IsValue (unitOf v) := by
  rw [unitOf]
  split
  · next known => exact isValue_of_mem_units v (List.contains_iff_mem.1 known)
  · decide

/-! ## numbers -/

/-- A number in its brief form is a numeral. -/
theorem isValue_brief (x : Binary64) : IsValue x.brief := by
  cases x with
  | nan => decide
  | infinite negative => cases negative <;> decide
  | finite => exact isValue_iff.2 fun c hc => isValueChar_of_isNumeralChar (isNumeralChar_of_mem_brief rfl hc)

/-- So is a number in its compact form. -/
theorem isValue_compact (x : Binary64) : IsValue x.compact := by
  rw [Binary64.compact]
  split
  · exact isValue_iff.2 fun c hc => isValueChar_of_isNumeralChar (isNumeralChar_of_mem_toString hc)
  · exact isValue_brief x

/-! ## fields -/

variable {data : Members} {field property s : String}

/-- A field that is shown as a colour is one. -/
theorem isValue_of_colorField? (h : colorField? data field = some s) : IsValue s :=
  isValue_of_isColor (Option.filter_eq_some_iff.1 h).2

/-- A field that is shown as a choice is one of the words to choose from. -/
theorem isValue_of_choiceField? {choices : List String} (each : ∀ choice ∈ choices, IsValue choice)
    (h : choiceField? data field choices = some s) : IsValue s :=
  each s (List.contains_iff_mem.1 (Option.filter_eq_some_iff.1 h).2)

/-- A field that holds a unit is read as one. -/
theorem isValue_unitField (data : Members) (field : String) : IsValue (unitField data field) :=
  isValue_unitOf _

/-! ## declarations -/

/-- A declaration that is written with characters of values. -/
def Declaration.IsPlain (d : Declaration) : Prop := IsValue d.property ∧ IsValue d.value

/-- A declaration is plain, if there is one. -/
def PlainIfAny (o : Option Declaration) : Prop := ∀ d ∈ o, d.IsPlain

/-- Where there is no declaration, there is nothing to check. -/
theorem plainIfAny_none : PlainIfAny none := nofun

/-- A declaration is plain if its property and its value are. -/
theorem plainIfAny_some {value : String} (named : IsValue property) (h : IsValue value) :
    PlainIfAny (some ⟨property, value⟩) := by
  rintro _ ⟨⟩
  exact ⟨named, h⟩

/-- A declaration made from a datum is plain if each text made from the datum is. -/
theorem plainIfAny_map {α : Type} {v : Option α} {f : α → String} (named : IsValue property)
    (h : ∀ a, v = some a → IsValue (f a)) : PlainIfAny (v.map fun a => ⟨property, f a⟩) := by
  intro d hd
  obtain ⟨a, ha, rfl⟩ := Option.map_eq_some_iff.1 hd
  exact ⟨named, h a ha⟩

/-- Declarations of dimensions are plain, because only texts that are dimensions make one. -/
theorem plainIfAny_dimensionOf? (named : IsValue property) : PlainIfAny (dimensionOf? data property field) := by
  refine plainIfAny_map named fun s hs => isValue_of_isDimension ?_
  exact (Bool.and_eq_true_iff.1 (Option.filter_eq_some_iff.1 hs).2).2

/-- Declarations of colours are plain, because only texts that are colours make one. -/
theorem plainIfAny_colorField? (named : IsValue property) :
    PlainIfAny ((colorField? data field).map (Declaration.mk property)) :=
  plainIfAny_map named fun _ => isValue_of_colorField?

/-- Declarations of choices are plain, because only fixed words make one. -/
theorem plainIfAny_choice {choices : List String} (named : IsValue property)
    (each : ∀ choice ∈ choices, IsValue choice) (v : Option String) :
    PlainIfAny ((v.filter choices.contains).map (Declaration.mk property)) :=
  plainIfAny_map named fun s hs => each s (List.contains_iff_mem.1 (Option.filter_eq_some_iff.1 hs).2)

/-- A length is a number with a unit from the list. -/
theorem yields_lengthOf? {unit : String} (named : IsValue property) (measured : IsValue unit) :
    Yields PlainIfAny (lengthOf? data property field unit) :=
  Yields.bind fun _ _ => yields_ok (plainIfAny_map named fun x _ => (isValue_compact x).append measured)

/-- The declaration of a shadow is plain. -/
theorem yields_shadow? (data : Members) : Yields PlainIfAny (shadow? data) := by
  unfold shadow?
  split
  · exact yields_ok plainIfAny_none
  · next color found =>
    refine Yields.bind fun lengths _ => ?_
    simp only
    split
    · exact yields_ok plainIfAny_none
    · refine yields_ok (plainIfAny_some (by decide) (IsFree.intercalate (by decide) ?_))
      rw [List.forall_mem_append, List.forall_mem_map, List.forall_mem_singleton]
      refine ⟨fun x _ => IsFree.append ?_ (by decide), isValue_of_colorField? found⟩
      cases x with
      | none => exact (by decide : IsValue "0")
      | some x => exact isValue_compact x

/-- The declaration of an opacity is plain. -/
theorem yields_opacity? (data : Members) : Yields PlainIfAny (opacity? data) := by
  refine Yields.bind fun x _ => ?_
  split
  · exact yields_ok plainIfAny_none
  · split
    · exact yields_ok (plainIfAny_some (by decide) (isValue_compact _))
    · exact yields_ok plainIfAny_none

/-- The declaration of a border is plain: a width, one of the styles and a colour. -/
theorem yields_border? (data : Members) : Yields PlainIfAny (border? data) := by
  have styles : ∀ style ∈ borderStyles, IsValue style := by decide
  refine Yields.bind fun width _ => ?_
  simp only
  split
  · next width style color found chosen _ =>
    have styled : IsValue style := isValue_of_choiceField? styles (Option.filter_eq_some_iff.1 found).1
    have measured := (isValue_compact width).append (isValue_unitField data "border_unit")
    have blank : IsValue " " := by decide
    have whole := (((measured.append blank).append styled).append blank).append (isValue_of_colorField? chosen)
    exact yields_ok (plainIfAny_some (by decide) whole)
  · exact yields_ok plainIfAny_none

/-- The declaration of rounded corners is plain. -/
theorem yields_radius? (data : Members) : Yields PlainIfAny (radius? data) :=
  Yields.bind fun _ _ => yields_ok <| plainIfAny_map (by decide) fun x _ =>
    (isValue_compact x).append (isValue_unitField data "border_radius_unit")

/-- What holds of each declaration that may be made holds of those that are made. -/
theorem forall_mem_filterMap_id {q : Declaration → Prop} {os : List (Option Declaration)}
    (h : ∀ o ∈ os, ∀ d ∈ o, q d) : ∀ d ∈ os.filterMap id, q d := by
  intro d hd
  obtain ⟨o, mem, found⟩ := List.mem_filterMap.1 hd
  exact h o mem d found

/-- All declarations for the style attribute are plain. -/
theorem yields_inlineDeclarations (data : Members) :
    Yields (fun ds => ∀ d ∈ ds, d.IsPlain) (inlineDeclarations data) := by
  have spaced {property field : String} (named : IsValue property) :
      Yields PlainIfAny (lengthOf? data property field (unitField data "margin_unit")) :=
    yields_lengthOf? named (isValue_unitField data "margin_unit")
  have sized : Yields PlainIfAny (lengthOf? data "font-size" "text_size" (unitField data "text_size_unit")) :=
    yields_lengthOf? (by decide) (isValue_unitField data "text_size_unit")
  refine Yields.bind fun bottom hbottom => Yields.bind fun left hleft => Yields.bind fun right hright => ?_
  refine Yields.bind fun top htop => Yields.bind fun size hsize => Yields.bind fun shadow hshadow => ?_
  refine Yields.bind fun opacity hopacity => yields_ok (forall_mem_filterMap_id ?_)
  change ∀ o ∈ _, PlainIfAny o
  simp only [List.forall_mem_cons, List.not_mem_nil, false_implies, implies_true, and_true]
  exact ⟨yields_shadow? data shadow hshadow, plainIfAny_colorField? (by decide), sized size hsize,
    plainIfAny_choice (by decide) (by decide) _, spaced (by decide) bottom hbottom,
    spaced (by decide) left hleft, spaced (by decide) right hright, spaced (by decide) top htop,
    plainIfAny_dimensionOf? (by decide), plainIfAny_dimensionOf? (by decide),
    yields_opacity? data opacity hopacity, plainIfAny_choice (by decide) (by decide) _⟩

/-- The declarations for the rule of a container are plain ones around that of its background image. -/
theorem exists_cascadeDeclarations_eq {ds : List Declaration} (h : cascadeDeclarations data = .ok ds) :
    ∃ before behind, ds = before ++ (backgroundImage? data).toList ++ behind ∧ (∀ d ∈ before, d.IsPlain) ∧
      ∀ d ∈ behind, d.IsPlain := by
  have sided : ∀ side ∈ sides, IsValue ("padding-" ++ side) := by decide
  obtain ⟨paddings, hpaddings, h⟩ := bind_eq_ok_iff.1 h
  obtain ⟨border, hborder, h⟩ := bind_eq_ok_iff.1 h
  obtain ⟨radius, hradius, h⟩ := bind_eq_ok_iff.1 h
  have padded : ∀ o ∈ paddings, PlainIfAny o :=
    yields_mapM (fun side mem => yields_lengthOf? (sided side mem) (isValue_unitField data "padding_unit"))
      paddings hpaddings
  have later : ∀ o ∈ [(choiceField? data "bg_size" backgroundSizes).map (Declaration.mk "background-size"),
      (choiceField? data "bg_position" backgroundPositions).map (Declaration.mk "background-position"),
      (choiceField? data "bg_repeat" backgroundRepeats).map (Declaration.mk "background-repeat")] ++
        paddings ++ [border, radius], PlainIfAny o := by
    rw [List.forall_mem_append, List.forall_mem_append]
    simp only [List.forall_mem_cons, List.not_mem_nil, false_implies, implies_true, and_true]
    exact ⟨⟨⟨plainIfAny_choice (by decide) (by decide) _, plainIfAny_choice (by decide) (by decide) _,
      plainIfAny_choice (by decide) (by decide) _⟩, padded⟩,
      yields_border? data border hborder, yields_radius? data radius hradius⟩
  refine ⟨((colorField? data "bg_color").map (Declaration.mk "background-color")).toList, _, ?_,
    fun d hd => plainIfAny_colorField? (by decide) d (Option.mem_toList.1 hd), forall_mem_filterMap_id later⟩
  rw [← Except.ok.inj h]
  cases colorField? data "bg_color" <;> cases backgroundImage? data <;> rfl

/-- All declarations for the rule of a container are plain, but for its background image. -/
theorem yields_cascadeDeclarations (data : Members) :
    Yields (fun ds => ∀ d ∈ ds, d.IsPlain ∨ backgroundImage? data = some d) (cascadeDeclarations data) := by
  intro ds h d mem
  obtain ⟨before, behind, rfl, first, later⟩ := exists_cascadeDeclarations_eq h
  rcases List.mem_append.1 mem with mem | mem
  · rcases List.mem_append.1 mem with mem | mem
    · exact .inl (first d mem)
    · exact .inr (Option.mem_toList.1 mem)
  · exact .inl (later d mem)

end Style

end Pagewright
