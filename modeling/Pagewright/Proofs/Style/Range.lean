import Pagewright.Proofs.Number.Range
import Pagewright.Proofs.Style.Lookup
import Pagewright.Style.Target

/-!
# Pagewright.Proofs.Style.Range

Which styles have CSS.  Whatever is given for a field is either cleaned or left out, with one exception: an
integer beyond the range of numbers, in the place of a number, is a fault.  Clean numbers lie between the limits
of the settings, so they can be written down unless a limit itself is beyond the range.
-/

namespace Pagewright

/-- Whether a datum is an integer beyond the range of numbers. -/
def Value.IsBeyond (v : Value) : Prop := ∃ n, v = .int n ∧ Binary64.IsBeyond n

/-- Only an integer can be beyond the range: a number of floating point is in it. -/
theorem Value.isBeyond_int_iff {n : Int} : (Value.int n).IsBeyond ↔ Binary64.IsBeyond n := by
  refine ⟨fun beyond => ?_, fun beyond => ⟨n, rfl, beyond⟩⟩
  obtain ⟨_, eq, beyond⟩ := beyond
  cases eq
  exact beyond

/-- Whether no limit of a numeric style is beyond the range of numbers. -/
structure Settings.LimitsInRange (settings : Settings) : Prop where
  min : ¬ Binary64.IsBeyond settings.numericMin
  max : ¬ Binary64.IsBeyond settings.numericMax
  offset : ¬ Binary64.IsBeyond settings.offsetLimit

namespace Style

variable {settings : Settings} {raw data : Members} {v : Value}

/-! ## numbers -/

/-- A datum is read as a quantity, or found to be none, unless its conversion overflows. -/
theorem exists_quantity_iff : (∃ x, quantity? v = .ok x) ↔ ¬ v.IsBeyond := by
  cases v with
  | int n =>
      rw [Value.isBeyond_int_iff, ← Binary64.ofInt?_eq_none_iff, quantity?]
      cases Binary64.ofInt? n <;> simp
  | _ =>
      refine ⟨fun _ beyond => ?_, fun _ => ⟨_, rfl⟩⟩
      obtain ⟨_, eq, -⟩ := beyond
      cases eq

/-- The declaration of a length fails only with the number that is read for it. -/
theorem exists_lengthOf_iff {property field unit : String} :
    (∃ d, lengthOf? data property field unit = .ok d) ↔ ¬ (data.get field).IsBeyond := by
  unfold lengthOf?
  rw [exists_map_iff, exists_quantity_iff]

/-- So does the reading of a positive number. -/
theorem exists_positive_iff {field : String} :
    (∃ x, positive? data field = .ok x) ↔ ¬ (data.get field).IsBeyond := by
  unfold positive?
  rw [exists_map_iff, exists_quantity_iff]

/-- Whether a field holds a number that is held to a limit beyond the range of numbers. -/
def HeldBeyond (settings : Settings) (field : String) (v : Value) : Prop :=
  ∃ x, quantity? v = .ok (some x) ∧
    Binary64.IsBeyond (clampRound (limits settings field).1 (limits settings field).2 x)

/-- Each numeric field is held to limits among the given ones, all of which are in range. -/
theorem not_isBeyond_limits (h : settings.LimitsInRange) (field : String) :
    ¬ Binary64.IsBeyond (limits settings field).1 ∧ ¬ Binary64.IsBeyond (limits settings field).2 := by
  unfold limits
  split
  · have offset := h.offset
    simp only [Binary64.IsBeyond, Int.natAbs_neg, Int.natAbs_natCast] at offset ⊢
    exact ⟨offset, offset⟩
  · exact ⟨h.min, h.max⟩

/-- With limits in range, holding a number to them never leads out of the range. -/
theorem not_heldBeyond (h : settings.LimitsInRange) (field : String) (v : Value) :
    ¬ HeldBeyond settings field v := by
  rintro ⟨x, -, beyond⟩
  obtain ⟨low, high⟩ := not_isBeyond_limits h field
  unfold clampRound at beyond
  split at beyond
  · rcases Int.le_total (limits settings field).1 (limits settings field).2 with le | le
    · exact low (Int.min_eq_left le ▸ beyond)
    · exact high (Int.min_eq_right le ▸ beyond)
  · split at beyond
    · exact high beyond
    · exact Binary64.not_isBeyond_round x beyond

/-! ## cleaning -/

/-- Whether the numbers that are given for the fields of style data are in range. -/
def NumbersInRange (raw : Members) : Prop :=
  ∀ field ∈ "opacity" :: numericFields, ¬ ((normalize raw).get field).IsBeyond

/-- Cleaning fails only at the numeric fields and the opacity, where it reads numbers. -/
theorem exists_cleanMembers_iff :
    (∃ data, cleanMembers settings raw = .ok data) ↔ NumbersInRange raw := by
  have numbers : (∃ numbers, cleanNumbers settings (normalize raw) = .ok numbers) ↔
      ∀ field ∈ numericFields, ¬ ((normalize raw).get field).IsBeyond := by
    rw [exists_cleanNumbers_iff]
    exact forall₂_congr fun field _ => exists_map_iff.trans exists_quantity_iff
  have opacity : (∃ v, cleanOpacity? ((normalize raw).get "opacity") = .ok v) ↔
      ¬ ((normalize raw).get "opacity").IsBeyond := exists_map_iff.trans exists_quantity_iff
  rw [NumbersInRange, List.forall_mem_cons, ← numbers, ← opacity, and_comm]
  exact exists_bind_iff_and fun _ => exists_map_iff

/-- The cleaned number in one line: what is read, held to the limits of its field and rounded. -/
theorem cleanNumber?_eq (settings : Settings) (field : String) (v : Value) :
    cleanNumber? settings field v = (do
      return (← quantity? v).map fun x =>
        .int (clampRound (limits settings field).1 (limits settings field).2 x)) := rfl

/-- A clean numeric field is beyond the range exactly when its number is held to a limit that is. -/
theorem isBeyond_get_iff {field : String} (cleaned : cleanMembers settings raw = .ok data)
    (numeric : field ∈ numericFields) :
    (data.get field).IsBeyond ↔ HeldBeyond settings field ((normalize raw).get field) := by
  have held := cleanField?_of_cleanMembers cleaned field
  rw [cleanField?, if_pos numeric, cleanNumber?_eq] at held
  obtain ⟨found, read, eq⟩ := bind_eq_ok_iff.1 held
  rw [Members.get, ← Except.ok.inj eq]
  unfold HeldBeyond
  rw [read]
  cases found with
  | none => simp [Value.IsBeyond]
  | some x => simp [Value.isBeyond_int_iff]

/-- The opacity is no integer once it is clean. -/
theorem not_isBeyond_opacity (cleaned : cleanMembers settings raw = .ok data) :
    ¬ (data.get "opacity").IsBeyond := by
  have held := cleanField?_of_cleanMembers cleaned "opacity"
  rw [cleanField?, if_neg (by decide), if_pos rfl] at held
  obtain ⟨found, -, eq⟩ := bind_eq_ok_iff.1 held
  rw [Members.get, ← Except.ok.inj eq]
  cases found <;> simp [Value.IsBeyond]

/-- The colour of a shadow after cleaning, said of the data that were given. -/
theorem colorField?_of_cleanMembers (cleaned : cleanMembers settings raw = .ok data) :
    colorField? data "shadow_color" =
      (((normalize raw).get "shadow_color").text?.map trimmed).filter isColor := by
  have held := cleanField?_of_cleanMembers cleaned "shadow_color"
  rw [cleanField?, if_neg (by decide), if_neg (by decide), if_neg (by decide), if_pos (by decide)] at held
  rw [colorField?, Members.get, ← Except.ok.inj held, cleanColor?]
  generalize ((normalize raw).get "shadow_color").text?.map trimmed = text
  cases text with
  | none => rfl
  | some s => by_cases color : isColor s = true <;> simp [Option.filter, color, Value.text?]

/-! ## rules -/

/-- The fields whose numbers a rule of the page is made of. -/
def cascadeFields : List String := sides.map ("padding_" ++ ·) ++ ["border_width", "border_radius"]

/-- A border reads its width, and nothing else that could be beyond the range. -/
theorem exists_border_iff : (∃ d, border? data = .ok d) ↔ ¬ (data.get "border_width").IsBeyond := by
  rw [← exists_positive_iff]
  refine exists_bind_iff_left fun width => ?_
  dsimp only
  split <;> exact ⟨_, rfl⟩

/-- So do rounded corners with their radius. -/
theorem exists_radius_iff : (∃ d, radius? data = .ok d) ↔ ¬ (data.get "border_radius").IsBeyond :=
  exists_map_iff.trans exists_positive_iff

/-- The declarations of the cascade fail only at the lengths that they read. -/
theorem exists_cascadeDeclarations_iff :
    (∃ ds, cascadeDeclarations data = .ok ds) ↔ ∀ field ∈ cascadeFields, ¬ (data.get field).IsBeyond := by
  have paddings (unit : String) :
      (∃ ds, (sides.mapM fun side => lengthOf? data ("padding-" ++ side) ("padding_" ++ side) unit) = .ok ds) ↔
        ∀ field ∈ sides.map ("padding_" ++ ·), ¬ (data.get field).IsBeyond := by
    rw [exists_mapM_iff, List.forall_mem_map]
    exact forall₂_congr fun side _ => exists_lengthOf_iff
  rw [cascadeFields, List.forall_mem_append, ← paddings (unitField data "padding_unit"),
    List.forall_mem_cons, List.forall_mem_singleton, ← exists_border_iff, ← exists_radius_iff]
  exact exists_bind_iff_and fun _ => exists_bind_iff_and fun _ => exists_map_iff

/-- The rule around the declarations reads no further number. -/
theorem exists_cascade_iff (scope : String) :
    (∃ css, cascade data scope = .ok css) ↔ ∀ field ∈ cascadeFields, ¬ (data.get field).IsBeyond := by
  rw [← exists_cascadeDeclarations_iff]
  refine exists_bind_iff_left fun ds => ?_
  split <;> exact ⟨_, rfl⟩

/-! ## declarations of containers -/

/-- The fields of margins and text, whose numbers are written down for whatever has them. -/
def spacingFields : List String := ["margin_bottom", "margin_left", "margin_right", "margin_top", "text_size"]

/-- The fields of a shadow. -/
def shadowFields : List String := ["shadow_x", "shadow_y", "shadow_blur", "shadow_spread"]

/-- All four lengths of a shadow are read, whichever of them are given. -/
theorem exists_shadowLengths_iff :
    (∃ lengths, shadowLengths data = .ok lengths) ↔ ∀ field ∈ shadowFields, ¬ (data.get field).IsBeyond := by
  unfold shadowLengths
  rw [exists_mapM_iff]
  exact forall₂_congr fun field _ => exists_map_iff.trans exists_quantity_iff

/-- The lengths of a shadow are read only if it has a colour. -/
theorem exists_shadow_iff :
    (∃ d, shadow? data = .ok d) ↔
      ((colorField? data "shadow_color").isSome → ∀ field ∈ shadowFields, ¬ (data.get field).IsBeyond) := by
  unfold shadow?
  cases colorField? data "shadow_color" with
  | none => exact iff_of_true ⟨none, rfl⟩ (by simp)
  | some color =>
      rw [← exists_shadowLengths_iff]
      simp only [Option.isSome_some, forall_const]
      refine exists_bind_iff_left fun lengths => ?_
      split <;> exact ⟨_, rfl⟩

/-- The opacity is read as a quantity. -/
theorem exists_opacity_iff : (∃ d, opacity? data = .ok d) ↔ ¬ (data.get "opacity").IsBeyond := by
  rw [← exists_quantity_iff]
  refine exists_bind_iff_left fun x => ?_
  split
  · exact ⟨_, rfl⟩
  · split <;> exact ⟨_, rfl⟩

/-- The declarations of a container itself read spacing, shadow and opacity in turn; the shadow only if it has a
colour. -/
theorem exists_inlineDeclarations_iff :
    (∃ ds, inlineDeclarations data = .ok ds) ↔
      (∀ field ∈ spacingFields, ¬ (data.get field).IsBeyond) ∧
      ((colorField? data "shadow_color").isSome → ∀ field ∈ shadowFields, ¬ (data.get field).IsBeyond) ∧
      ¬ (data.get "opacity").IsBeyond := by
  have read : (∃ ds, inlineDeclarations data = .ok ds) ↔ _ :=
    exists_bind_iff_and fun _ => exists_bind_iff_and fun _ => exists_bind_iff_and fun _ =>
      exists_bind_iff_and fun _ => exists_bind_iff_and fun _ => exists_bind_iff_and fun _ => exists_map_iff
  simp only [exists_lengthOf_iff, exists_shadow_iff, exists_opacity_iff] at read
  simp only [read, spacingFields, List.forall_mem_cons, List.not_mem_nil, false_implies,
    implies_true, true_and, and_assoc]

/-! ## whole styles -/

/-- Whether style data is in range: all numbers that are given for its fields, and those that some fields hold
once they are clean. -/
structure InRange (settings : Settings) (fields : List String) (raw : Members) : Prop where
  given : NumbersInRange raw
  held : ∀ field ∈ fields, ¬ HeldBeyond settings field ((normalize raw).get field)

/-- With limits in range, it is enough that the given numbers are. -/
theorem inRange_iff (limits : settings.LimitsInRange) {fields : List String} :
    InRange settings fields raw ↔ NumbersInRange raw :=
  ⟨InRange.given, fun given => ⟨given, fun field _ => not_heldBeyond limits field _⟩⟩

/-- The fields whose numbers the styles of a container are made of; those of its shadow are read only if it has
a colour. -/
def inlineFields (raw : Members) : List String :=
  spacingFields ++
    if ((((normalize raw).get "shadow_color").text?.map trimmed).filter isColor).isSome then shadowFields else []

/-- What is made of clean numbers of some fields comes about exactly when the style data is in range. -/
theorem exists_bind_cleanMembers_iff {α : Type} {f : Members → Except Fault α} {fields : List String}
    (numeric : ∀ field ∈ fields, field ∈ numericFields)
    (h : ∀ data, cleanMembers settings raw = .ok data →
      ((∃ a, f data = .ok a) ↔ ∀ field ∈ fields, ¬ (data.get field).IsBeyond)) :
    (∃ a, cleanMembers settings raw >>= f = .ok a) ↔ InRange settings fields raw := by
  have held {data : Members} (cleaned : cleanMembers settings raw = .ok data) :
      (∃ a, f data = .ok a) ↔ ∀ field ∈ fields, ¬ HeldBeyond settings field ((normalize raw).get field) :=
    (h data cleaned).trans <|
      forall₂_congr fun field mem => not_congr (isBeyond_get_iff cleaned (numeric field mem))
  rw [exists_bind_iff]
  constructor
  · rintro ⟨data, cleaned, made⟩
    exact ⟨exists_cleanMembers_iff.1 ⟨data, cleaned⟩, (held cleaned).1 made⟩
  · rintro ⟨given, inRange⟩
    obtain ⟨data, cleaned⟩ := exists_cleanMembers_iff.2 given
    exact ⟨data, cleaned, (held cleaned).2 inRange⟩

/-- The lengths of the cascade are numeric fields, so they were held to limits. -/
theorem mem_numericFields_of_mem_cascadeFields : ∀ field ∈ cascadeFields, field ∈ numericFields := by decide

/-- So are those of the container itself. -/
theorem mem_numericFields_of_mem_inlineFields {field : String} (mem : field ∈ inlineFields raw) :
    field ∈ numericFields := by
  have spacing : ∀ field ∈ spacingFields, field ∈ numericFields := by decide
  have shadow : ∀ field ∈ shadowFields, field ∈ numericFields := by decide
  rcases List.mem_append.1 mem with mem | mem
  · exact spacing field mem
  · split at mem
    · exact shadow field mem
    · cases mem

/-- Of clean data, only the numeric fields can still be beyond the range; the opacity cannot. -/
theorem exists_inline_iff (cleaned : cleanMembers settings raw = .ok data) :
    (∃ css, inline data = .ok css) ↔ ∀ field ∈ inlineFields raw, ¬ (data.get field).IsBeyond := by
  have made : (∃ css, inline data = .ok css) ↔ ∃ ds, inlineDeclarations data = .ok ds := exists_map_iff
  rw [made, exists_inlineDeclarations_iff, colorField?_of_cleanMembers cleaned, inlineFields,
    List.forall_mem_append, and_iff_left (not_isBeyond_opacity cleaned)]
  refine and_congr_right fun _ => ?_
  split
  · next color => simp only [color, forall_const]
  · next color => simp [color]

/-- The styles of one target of the page come about if the target has none or those it has are in range. -/
theorem exists_targetCss_iff {name selector : String} :
    (∃ css, targetCss settings name selector v = .ok css) ↔
      ∀ raw, v = .obj raw → InRange settings (cascadeFields ++ inlineFields raw) raw := by
  cases v with
  | obj raw =>
      simp only [Value.obj.injEq, forall_eq']
      refine exists_bind_cleanMembers_iff ?_ fun data cleaned => ?_
      · exact List.forall_mem_append.2
          ⟨mem_numericFields_of_mem_cascadeFields, fun field => mem_numericFields_of_mem_inlineFields⟩
      · rw [List.forall_mem_append, ← exists_cascadeDeclarations_iff, ← exists_inline_iff cleaned, and_comm]
        refine exists_bind_iff_and fun _ => exists_bind_iff_left fun ds => ?_
        split <;> exact ⟨_, rfl⟩
  | _ => exact iff_of_true ⟨_, rfl⟩ (by simp)

/-- The targets of a page are treated one after the other, so each of them has to be in range. -/
theorem exists_pageCss_iff {style : Members} :
    (∃ css, pageCss settings (.obj style) = .ok css) ↔
      ∀ target ∈ targets, ∀ raw, style.get target.1 = .obj raw →
        InRange settings (cascadeFields ++ inlineFields raw) raw := by
  have made : (∃ css, pageCss settings (.obj style) = .ok css) ↔
      ∃ parts, (targets.mapM fun target =>
        targetCss settings target.1 target.2 (style.get target.1)) = .ok parts := exists_map_iff
  rw [made, exists_mapM_iff]
  exact forall₂_congr fun target _ => exists_targetCss_iff

end Style

end Pagewright
