import Mathlib.Data.List.Nodup
import Pagewright.Proofs.Number.Exact
import Pagewright.Proofs.Style.ClassName
import Pagewright.Proofs.Style.Range
import Pagewright.Proofs.Text.Trim

/-!
# Pagewright.Proofs.Style.Settling

Cleaning style data twice.  For each kind of field stands what a clean value of it is.  Cleaning a field gives
such values and leaves them as they are, so that the clean data are exactly those that cleaning does not
change; whatever spelling and order the data had, they are clean after the first time.  The opacity and author
CSS are left aside.
-/

namespace Pagewright

/-- Whether the limits of numeric styles are in order and no greater than `2 ^ 53`, so that all integers
between them are numbers. -/
structure Settings.HasExactLimits (settings : Settings) : Prop where
  ordered : settings.numericMin ≤ settings.numericMax
  min : settings.numericMin.natAbs ≤ 2 ^ 53
  max : settings.numericMax.natAbs ≤ 2 ^ 53
  offset : settings.offsetLimit.natAbs ≤ 2 ^ 53

namespace Style

variable {settings : Settings} {field : String} {raw data ms out : Members}

/-! ## clean data -/

/-- The fields that are left aside. -/
def looseFields : List String := ["opacity", "custom_css"]

/-- Whether a text can stand in CSS as it is: there are no blanks around it, no refused construct in it and no
beginning of a comment. -/
def IsSafeText (s : String) : Prop :=
  trimmed s = s ∧ Css.isDangerous s.toList = false ∧ Text.occursIn ['/', '*'] s.toList = false

/-- Whether a value is one that a field has in clean data. -/
def IsCleanValue (settings : Settings) (field : String) (v : Value) : Prop :=
  if field ∈ numericFields then
    ∃ n, v = .int n ∧ (limits settings field).1 ≤ n ∧ n ≤ (limits settings field).2
  else if field ∈ unitFields then ∃ s, v = .str s ∧ s ∈ units
  else if field ∈ colorFields then ∃ s, v = .str s ∧ isColor s = true ∧ trimmed s = s
  else if field ∈ choiceFields.map (·.1) then
    ∃ s options, v = .str s ∧ choiceFields.lookup field = some options ∧ s ∈ options
  else if field = "bg_image" then ∃ s, v = .str s ∧ isImageAddress s = true ∧ IsSafeText s
  else if field ∈ dimensionFields then ∃ s, v = .str s ∧ isDimension s = true ∧ IsSafeText s
  else if field = "custom_class" then
    ∃ names, v = .str (String.intercalate " " names) ∧ names ≠ [] ∧ names.Nodup ∧
      ∀ name ∈ names, isClassName name.toList = true
  else if field ∈ flagFields then ∃ b, v = .bool b
  else False

/-- Whether style data are clean: there are no members but fields, and their values are such as the fields have
in clean data. -/
structure IsClean (settings : Settings) (ms : Members) : Prop where
  distinct : ms.keys.Nodup
  known : ∀ field ∈ ms.keys, field ∈ fieldKinds.flatten
  values : ∀ m ∈ ms, m.1 ∉ looseFields → IsCleanValue settings m.1 m.2

/-- Style data without the fields that are left aside. -/
def withoutLoose (ms : Members) : Members := ms.filter fun m => !looseFields.contains m.1

/-! ## fields that are cleaned on their own -/

/-- Cleaning a field gives values of some kind, leaves these as they are, and makes nothing of nothing. -/
structure Settles (field : String) (clean? : Members → Except Fault (Option Value)) (P : Value → Prop) :
    Prop where
  gives : ∀ data v, clean? data = .ok (some v) → P v
  keeps : ∀ data v, Members.get? field data = some v → P v → clean? data = .ok (some v)
  absent : ∀ data, Members.get? field data = none → clean? data = .ok none

/-- Cleaning leaves a field that has no value, or one of its kind, as it is. -/
theorem Settles.eq_get? {clean? : Members → Except Fault (Option Value)} {P : Value → Prop}
    (h : Settles field clean? P) (value : ∀ v, data.get? field = some v → P v) :
    clean? data = .ok (data.get? field) := by
  cases given : data.get? field with
  | none => exact h.absent data given
  | some v => exact h.keeps data v given (value v given)

/-- A field that is cleaned by itself, without regard to the others. -/
theorem Settles.of_value (clean? : Value → Option Value) {P : Value → Prop}
    (gives : ∀ v w, clean? v = some w → P w) (keeps : ∀ v, P v → clean? v = some v)
    (absent : clean? .null = none) : Settles field (fun data => .ok (clean? (data.get field))) P where
  gives _ w h := gives _ w (Except.ok.inj h)
  keeps data v given h := by rw [Members.get_of_get? given, keeps v h]
  absent data none := by rw [Members.get_of_get?_eq_none none, absent]

/-- A field that may be of two kinds. -/
theorem Settles.ite {c : Prop} [Decidable c] {f g : Members → Option Value} {P Q : Value → Prop}
    (hf : Settles field (fun data => .ok (f data)) P) (hg : Settles field (fun data => .ok (g data)) Q) :
    Settles field (fun data => .ok (if c then f data else g data)) fun v => if c then P v else Q v := by
  by_cases h : c
  · simpa only [if_pos h] using hf
  · simpa only [if_neg h] using hg

/-- A field that holds a text. -/
theorem Settles.of_text (prepare : String → String) (p : String → Bool) {clean? : Value → Option Value}
    {P : String → Prop} (eq : ∀ v, clean? v = ((v.text?.map prepare).filter p).map .str)
    (gives : ∀ s, p (prepare s) = true → P (prepare s)) (keeps : ∀ s, P s → prepare s = s ∧ p s = true) :
    Settles field (fun data => .ok (clean? (data.get field))) fun v => ∃ s, v = .str s ∧ P s := by
  refine .of_value clean? ?_ ?_ (eq .null)
  · intro v w cleaned
    rw [eq, Option.map_eq_some_iff] at cleaned
    obtain ⟨t, found, rfl⟩ := cleaned
    obtain ⟨given, fits⟩ := Option.filter_eq_some_iff.1 found
    obtain ⟨s, -, rfl⟩ := Option.map_eq_some_iff.1 given
    exact ⟨_, rfl, gives s fits⟩
  · rintro _ ⟨s, rfl, h⟩
    obtain ⟨same, fits⟩ := keeps s h
    rw [eq, Value.text?, Option.map_some, same, Option.filter_some, if_pos fits, Option.map_some]

/-! ## numbers -/

/-- Each numeric field is held to a pair of limits that is in order and exact. -/
theorem limits_exact (exact : settings.HasExactLimits) (field : String) :
    (limits settings field).1 ≤ (limits settings field).2 ∧
      (limits settings field).1.natAbs ≤ 2 ^ 53 ∧ (limits settings field).2.natAbs ≤ 2 ^ 53 := by
  obtain ⟨ordered, min, max, offset⟩ := exact
  unfold limits
  split
  · dsimp only
    omega
  · exact ⟨ordered, min, max⟩

/-- Only finite numbers are read. -/
theorem isFinite_of_quantity? {v : Value} {x : Binary64} (h : quantity? v = .ok (some x)) :
    x.isFinite = true := by
  cases v with
  | int n =>
      rw [quantity?] at h
      split at h
      · next read =>
        cases h
        exact Binary64.isFinite_of_ofInt? read
      · cases h
  | float y =>
      rw [quantity?] at h
      split at h
      · next finite =>
        cases h
        exact finite
      · cases h
  | str s => exact (Option.filter_eq_some_iff.1 (Except.ok.inj h)).2
  | _ => cases h

/-- A number is held between its limits. -/
theorem clampRound_mem {low high : Int} (ordered : low ≤ high) {x : Binary64} (finite : x.isFinite = true) :
    low ≤ clampRound low high x ∧ clampRound low high x ≤ high := by
  obtain ⟨r, rounded, above, below⟩ := Binary64.exists_round finite
  simp only [clampRound, Binary64.orderInt?_eq finite, beq_iff_eq, Option.some.injEq, Int.compare_eq_lt,
    Int.compare_eq_gt, rounded, Option.getD_some]
  split
  · rw [Int.min_eq_left ordered]
    exact ⟨Int.le_refl low, ordered⟩
  · next notBelow =>
    split
    · exact ⟨ordered, Int.le_refl high⟩
    · next notAbove => exact ⟨above low (Int.not_lt.1 notBelow), below high (Int.not_lt.1 notAbove)⟩

/-- An integer between the limits is left as it is. -/
theorem clampRound_eq_self {low high n : Int} {x : Binary64} (h : x.IsExactly n) (above : low ≤ n)
    (below : n ≤ high) : clampRound low high x = n := by
  have pos : (0 : Int) ≤ x.denominator := Int.natCast_nonneg _
  have notBelow := Int.not_lt.2 (Int.mul_le_mul_of_nonneg_right above pos)
  have notAbove := Int.not_lt.2 (Int.mul_le_mul_of_nonneg_right below pos)
  simp only [clampRound, Binary64.orderInt?_eq h.1, h.2, beq_iff_eq, Option.some.injEq, Int.compare_eq_lt,
    Int.compare_eq_gt, h.round?, Option.getD_some]
  rw [if_neg notBelow, if_neg notAbove]

/-- A number is rounded to an integer between its limits, and such an integer is kept. -/
theorem settles_number (exact : settings.HasExactLimits) (field : String) :
    Settles field (fun data => cleanNumber? settings field (data.get field)) fun v =>
      ∃ n, v = .int n ∧ (limits settings field).1 ≤ n ∧ n ≤ (limits settings field).2 := by
  obtain ⟨ordered, low, high⟩ := limits_exact exact field
  refine ⟨fun data v cleaned => ?_, ?_, fun data none => ?_⟩
  · rw [cleanNumber?_eq] at cleaned
    obtain ⟨found, read, eq⟩ := bind_eq_ok_iff.1 cleaned
    obtain ⟨x, rfl, rfl⟩ := Option.map_eq_some_iff.1 (Except.ok.inj eq)
    exact ⟨_, rfl, clampRound_mem ordered (isFinite_of_quantity? read)⟩
  · rintro data _ given ⟨n, rfl, above, below⟩
    obtain ⟨x, eq, exactly⟩ := Binary64.exists_ofInt? (n := n) (by omega)
    have read : quantity? (.int n) = .ok (some x) := by rw [quantity?, eq]
    rw [Members.get_of_get? given, cleanNumber?_eq, read]
    exact congrArg (fun k => Except.ok (some (Value.int k))) (clampRound_eq_self exactly above below)
  · rw [Members.get_of_get?_eq_none none]
    rfl

/-! ## texts -/

theorem trimmed_trimmed (s : String) : trimmed (trimmed s) = trimmed s := by
  rw [trimmed, trimmed, String.toList_ofList, Text.trim_trim]

/-- A unit is kept if it is a known one. -/
theorem settles_unit (field : String) :
    Settles field (fun data => .ok (cleanUnit? (data.get field))) fun v => ∃ s, v = .str s ∧ s ∈ units := by
  refine .of_text id units.contains (fun v => ?_) ?_ ?_
  · rw [Option.map_id_fun, id, cleanUnit?]
  · exact fun _ => List.contains_iff_mem.1
  · exact fun _ mem => ⟨rfl, List.contains_iff_mem.2 mem⟩

/-- A colour is kept without the blanks around it. -/
theorem settles_color (field : String) :
    Settles field (fun data => .ok (cleanColor? (data.get field))) fun v =>
      ∃ s, v = .str s ∧ isColor s = true ∧ trimmed s = s :=
  .of_text trimmed isColor (fun _ => rfl) (fun s color => ⟨color, trimmed_trimmed s⟩)
    fun _ ⟨color, bare⟩ => ⟨bare, color⟩

/-- A choice is kept if it is one of the field's options. -/
theorem settles_choice (field : String) :
    Settles field (fun data => .ok ((choiceFields.lookup field).bind (cleanChoice? · (data.get field))))
      fun v => ∃ s options, v = .str s ∧ choiceFields.lookup field = some options ∧ s ∈ options := by
  refine .of_value (fun v => (choiceFields.lookup field).bind (cleanChoice? · v)) ?_ ?_ ?_
  · intro v w cleaned
    obtain ⟨options, own, cleaned⟩ := Option.bind_eq_some_iff.1 cleaned
    have chosen {s : String} (h : (if options.contains s then some (Value.str s) else none) = some w) :
        w = .str s ∧ s ∈ options := by
      split at h
      · next mem =>
        cases h
        exact ⟨rfl, List.contains_iff_mem.1 mem⟩
      · cases h
    cases v with
    | int n => exact ⟨_, options, (chosen cleaned).1, own, (chosen cleaned).2⟩
    | str s => exact ⟨_, options, (chosen cleaned).1, own, (chosen cleaned).2⟩
    | _ => cases cleaned
  · rintro _ ⟨s, options, rfl, own, mem⟩
    rw [own, Option.bind_some, cleanChoice?, if_pos (List.contains_iff_mem.2 mem)]
  · cases choiceFields.lookup field <;> rfl

/-- A text that is left of a value can stand in CSS. -/
theorem isSafeText_safeValue {s : String} (some : safeValue s ≠ "") : IsSafeText (safeValue s) := by
  unfold safeValue at some ⊢
  dsimp only at some ⊢
  split
  · next refused => exact absurd (if_pos refused) some
  · next safe =>
    rw [Bool.or_eq_true, not_or, Bool.not_eq_true, Bool.not_eq_true] at safe
    rw [IsSafeText, trimmed, String.toList_ofList, Text.trim_trim]
    exact ⟨rfl, safe⟩

/-- A text that can stand in CSS is not changed by the cleaning of values. -/
theorem safeValue_eq_self {s : String} (h : IsSafeText s) : safeValue s = s := by
  obtain ⟨bare, harmless, plain⟩ := h
  have same : Text.trim s.toList = s.toList := by
    rw [← String.toList_ofList (l := Text.trim s.toList), ← trimmed, bare]
  unfold safeValue
  dsimp only
  rw [same, harmless, plain, String.ofList_toList]
  rfl

/-- A field that holds a text that can stand in CSS. -/
theorem settles_safe (field : String) (p : String → Bool) {clean? : Value → Option Value}
    (eq : ∀ v, clean? v = ((v.text?.map safeValue).filter fun s => !s.isEmpty && p s).map .str)
    (empty : p "" = false) :
    Settles field (fun data => .ok (clean? (data.get field))) fun v =>
      ∃ s, v = .str s ∧ p s = true ∧ IsSafeText s := by
  refine .of_text safeValue (fun s => !s.isEmpty && p s) eq (fun s h => ?_) fun s h => ?_
  · obtain ⟨some, fits⟩ := Bool.and_eq_true_iff.1 h
    exact ⟨fits, isSafeText_safeValue (by simpa using some)⟩
  · have some : s ≠ "" := by
      rintro rfl
      exact Bool.false_ne_true (empty.symm.trans h.1)
    exact ⟨safeValue_eq_self h.2, by simp [some, h.1]⟩

/-- Class names are filtered, and each stands once; a list of such names is kept. -/
theorem settles_classes (field : String) :
    Settles field (fun data => .ok (cleanClasses? (data.get field))) fun v =>
      ∃ names, v = .str (String.intercalate " " names) ∧ names ≠ [] ∧ names.Nodup ∧
        ∀ name ∈ names, isClassName name.toList = true := by
  refine .of_value cleanClasses? ?_ ?_ rfl
  · intro v w cleaned
    obtain ⟨names, own, distinct, valid⟩ := exists_classesOf v
    rw [cleanClasses?, own] at cleaned
    split at cleaned
    · cases cleaned
    · next some =>
      cases cleaned
      refine ⟨_, rfl, some, List.Nodup.map @String.ofList_injective distinct, ?_⟩
      refine List.forall_mem_map.2 fun cs mem => ?_
      rw [String.toList_ofList]
      exact valid cs mem
  · rintro _ ⟨names, rfl, some, distinct, valid⟩
    have own := classesOf_intercalate
      ⟨List.Nodup.map @String.toList_injective distinct, List.forall_mem_map.2 valid⟩
    rw [cleanClasses?, own]
    split
    · next none => exact absurd rfl some
    · rfl

/-! ## every field -/

/-- A flag is whatever its field holds, taken as a truth value. -/
theorem settles_flag (field : String) :
    Settles field (fun data => .ok ((data.get? field).map fun v => .bool v.isTruthy)) fun v =>
      ∃ b, v = .bool b where
  gives data v h := by
    obtain ⟨w, -, rfl⟩ := Option.map_eq_some_iff.1 (Except.ok.inj h)
    exact ⟨_, rfl⟩
  keeps data v given h := by
    obtain ⟨b, rfl⟩ := h
    rw [given]
    rfl
  absent data none := by rw [none, Option.map_none]

/-- Cleaning settles every field that is not left aside. -/
theorem settles_cleanField? (exact : settings.HasExactLimits) (own : field ∉ looseFields) :
    Settles field (fun data => cleanField? settings data field) (IsCleanValue settings field) := by
  obtain ⟨opacity, css⟩ : field ≠ "opacity" ∧ field ≠ "custom_css" := by simpa [looseFields] using own
  unfold cleanField? IsCleanValue
  simp only [if_neg opacity, if_neg css]
  by_cases numeric : field ∈ numericFields
  · simp only [if_pos numeric]
    exact settles_number exact field
  · simp only [if_neg numeric]
    have none : Settles field (fun _ => .ok none) fun _ => False :=
      ⟨fun _ _ => nofun, fun _ _ _ => False.elim, fun _ _ => rfl⟩
    exact .ite (settles_unit field) <| .ite (settles_color field) <| .ite (settles_choice field) <|
      .ite (settles_safe field isImageAddress (fun _ => rfl) rfl) <|
      .ite (settles_safe field isDimension (fun _ => rfl) (by decide)) <|
      .ite (settles_classes field) <| .ite (settles_flag field) none

/-! ## whole data -/

/-- No field is cleaned twice. -/
theorem nodup_fields : fieldKinds.flatten.Nodup := by decide +kernel

/-- The fields are spelled with underscores. -/
theorem snakeCase_field : ∀ field ∈ fieldKinds.flatten, snakeCase field = field := by decide +kernel

/-- The members of clean data are spelled with underscores already. -/
theorem IsClean.normalize_eq_self (h : IsClean settings ms) : normalize ms = ms := by
  have spelled : normalize ms = Members.setAll [] ms := by
    refine List.foldl_ext _ _ _ fun acc m mem => ?_
    have same : snakeCase m.1 = m.1 := snakeCase_field m.1 (h.known m.1 (List.mem_map.2 ⟨m, mem, rfl⟩))
    simp [same]
  rw [spelled]
  exact Members.setAll_of_nodup h.distinct

/-- What is under a field of clean data is a value of that field. -/
theorem IsClean.isCleanValue_of_get? (h : IsClean settings ms) (own : field ∉ looseFields) (v : Value)
    (given : ms.get? field = some v) : IsCleanValue settings field v :=
  h.values _ (Members.mem_of_get? given) own

/-- The fields of cleaned data are in the order in which they are cleaned. -/
theorem keys_cleanMembers_sublist (h : cleanMembers settings raw = .ok data) :
    data.keys.Sublist fieldKinds.flatten := by
  obtain ⟨numbers, cleaned, h⟩ := bind_eq_ok_iff.1 h
  obtain ⟨opacity, -, made⟩ := bind_eq_ok_iff.1 h
  cases made
  have kinds : fieldKinds.flatten = numericFields ++ ["opacity"] ++ unitFields ++ colorFields ++
      choiceFields.map (·.1) ++ ["bg_image"] ++ dimensionFields ++ ["custom_class"] ++ ["custom_css"] ++
      flagFields := by
    simp only [fieldKinds, List.flatten_cons, List.flatten_nil, List.append_assoc, List.append_nil]
  -- a field without a clean value leaves a gap in its kind
  have members (names : List String) (value? : String → Option Value) :
      ((names.filterMap fun field => (value? field).map (field, ·)).map (·.1)).Sublist names := by
    have order := Members.keys_filterMap_sublist id value? names
    rwa [List.map_id] at order
  have single (name : String) (v : Option Value) : ((v.map (name, ·)).toList.map (·.1)).Sublist [name] := by
    cases v with
    | none => exact List.nil_sublist _
    | some v => exact .refl _
  have fields (names : List String) (clean? : Value → Option Value) :
      ((cleanFields (normalize raw) names clean?).map (·.1)).Sublist names := members names _
  have choices := Members.keys_filterMap_sublist (·.1)
    (fun choice : String × List String => cleanChoice? choice.2 ((normalize raw).get choice.1)) choiceFields
  have flags := members flagFields fun field => ((normalize raw).get? field).map fun v => .bool v.isTruthy
  simp only [Option.map_map, Function.comp_def] at flags
  rw [kinds, cleanNumbers_eq cleaned]
  simp only [Members.keys, List.map_append]
  exact (members _ _).append (single _ _) |>.append (fields _ _) |>.append (fields _ _) |>.append choices
    |>.append (fields _ _) |>.append (fields _ _) |>.append (fields _ _) |>.append (fields _ _)
    |>.append flags

/-- Cleaning gives clean data, as each field settles. -/
theorem isClean_of_cleanMembers (exact : settings.HasExactLimits)
    (h : cleanMembers settings raw = .ok data) : IsClean settings data := by
  have order := keys_cleanMembers_sublist h
  have distinct := nodup_fields.sublist order
  refine ⟨distinct, order.subset, fun m mem own => ?_⟩
  have cleaned := cleanField?_of_cleanMembers h m.1
  rw [Members.get?_of_mem distinct mem] at cleaned
  exact (settles_cleanField? exact own).gives _ _ cleaned

/-- Cleaning clean data gives each field back. -/
theorem get?_cleanMembers_of_isClean (exact : settings.HasExactLimits) (tidy : IsClean settings ms)
    (h : cleanMembers settings ms = .ok out) (own : field ∉ looseFields) : out.get? field = ms.get? field := by
  have cleaned := cleanField?_of_cleanMembers h field
  rw [tidy.normalize_eq_self] at cleaned
  have same := (settles_cleanField? exact own).eq_get? (tidy.isCleanValue_of_get? own)
  exact Except.ok.inj (cleaned.symm.trans same)

/-- Clean data are cleaned again unless their opacity is beyond the range of numbers. -/
theorem exists_cleanMembers_of_isClean_iff (exact : settings.HasExactLimits) (tidy : IsClean settings ms) :
    (∃ out, cleanMembers settings ms = .ok out) ↔ ¬ (ms.get "opacity").IsBeyond := by
  rw [exists_cleanMembers_iff, NumbersInRange, List.forall_mem_cons, tidy.normalize_eq_self]
  refine and_iff_left fun field numeric => ?_
  have own : field ∉ looseFields := by
    have apart : ∀ field ∈ numericFields, field ∉ looseFields := by decide
    exact apart field numeric
  have values := tidy.isCleanValue_of_get? own
  simp only [IsCleanValue, if_pos numeric] at values
  exact (exists_map_iff.trans exists_quantity_iff).1 ⟨_, (settles_number exact field).eq_get? values⟩

/-- Whatever cleaning gives is clean and in order, and can be cleaned again. -/
theorem isClean_of_clean (exact : settings.HasExactLimits) {raw : Value} (h : clean settings raw = .ok out) :
    IsClean settings out ∧ out.keys.Sublist fieldKinds.flatten ∧ ¬ (out.get "opacity").IsBeyond := by
  cases raw with
  | obj ms => exact ⟨isClean_of_cleanMembers exact h, keys_cleanMembers_sublist h, not_isBeyond_opacity h⟩
  | _ =>
    cases h
    refine ⟨⟨List.nodup_nil, nofun, nofun⟩, List.nil_sublist _, fun beyond => ?_⟩
    obtain ⟨_, eq, -⟩ := beyond
    cases eq

/-- Cleaning clean data that are in order changes nothing but the fields that are left aside. -/
theorem withoutLoose_cleanMembers (exact : settings.HasExactLimits) (tidy : IsClean settings ms)
    (order : ms.keys.Sublist fieldKinds.flatten) (h : cleanMembers settings ms = .ok out) :
    withoutLoose out = withoutLoose ms := by
  have kept {ms : Members} (order : ms.keys.Sublist fieldKinds.flatten) :
      (withoutLoose ms).keys.Sublist fieldKinds.flatten := (List.filter_sublist.map _).trans order
  refine Members.eq_of_get?_eq nodup_fields (kept (keys_cleanMembers_sublist h)) (kept order) fun field => ?_
  simp only [withoutLoose, Members.get?_filter fun field => !looseFields.contains field]
  split
  · next own =>
    have own : field ∉ looseFields := by simpa using own
    exact get?_cleanMembers_of_isClean exact tidy h own
  · rfl

/-- Cleaning gives exactly the clean data.  Whatever it gives is clean; clean data are returned with the same
values, unless an opacity beyond the range of numbers is a fault; and so cleaning again changes nothing.  The
fields that are left aside are not told of. -/
theorem clean_settles (exact : settings.HasExactLimits) :
    (∀ raw out, clean settings raw = .ok out → IsClean settings out) ∧
      (∀ ms : Members, IsClean settings ms →
        ((∃ out, clean settings (.obj ms) = .ok out) ↔ ¬ (ms.get "opacity").IsBeyond) ∧
          ∀ out : Members, clean settings (.obj ms) = .ok out →
            ∀ field, field ∉ looseFields → out.get? field = ms.get? field) ∧
      ∀ raw out, clean settings raw = .ok out →
        ∃ again, clean settings (.obj out) = .ok again ∧ withoutLoose again = withoutLoose out := by
  refine ⟨fun raw out h => (isClean_of_clean exact h).1, fun ms tidy => ?_, fun raw out h => ?_⟩
  · exact ⟨exists_cleanMembers_of_isClean_iff exact tidy,
      fun out h field own => get?_cleanMembers_of_isClean exact tidy h own⟩
  · obtain ⟨tidy, order, small⟩ := isClean_of_clean exact h
    obtain ⟨again, second⟩ := (exists_cleanMembers_of_isClean_iff exact tidy).2 small
    exact ⟨again, second, withoutLoose_cleanMembers exact tidy order second⟩

/-- The style of a card in both spellings: a number with blanks and a fraction, two colours of which one is none,
and class names with blanks and repeated. -/
def cardStyle : Members :=
  [ ("marginTop", .str " 12.6 "), ("bgColor", .str " #fff "), ("bg_color", .str "white"),
    ("textColor", .str " rgb(1, 2, 3) "), ("customClass", .list [.str "a b", .str " wide ", .str "wide"]),
    ("textWeight", .int 700), ("paddingLinked", .int 1), ("border", .null) ]

/-- The style of a card once it is clean. -/
def cleanCardStyle : Members :=
  [ ("margin_top", .int 13), ("text_color", .str "rgb(1, 2, 3)"), ("text_weight", .str "700"),
    ("custom_class", .str "wide"), ("padding_linked", .bool true) ]

/-- The card is cleaned to the data above, and these are returned as they are. -/
theorem clean_settles_card :
    Settings.HasExactLimits {} ∧ clean {} (.obj cardStyle) = .ok cleanCardStyle ∧
      IsClean {} cleanCardStyle ∧ ¬ (Members.get "opacity" cleanCardStyle).IsBeyond ∧
      ∃ again : Members, clean {} (.obj cleanCardStyle) = .ok again ∧
        again.get? "custom_class" = some (.str "wide") ∧ withoutLoose again = withoutLoose cleanCardStyle := by
  have exact : Settings.HasExactLimits {} := ⟨by decide, by decide, by decide, by decide⟩
  obtain ⟨cleans, keeps, settles⟩ := clean_settles exact
  have first : clean {} (.obj cardStyle) = .ok cleanCardStyle := rfl
  have tidy := cleans _ _ first
  obtain ⟨returns, same⟩ := keeps _ tidy
  obtain ⟨again, second, rest⟩ := settles _ _ first
  have kept := same again second "custom_class" (by decide)
  exact ⟨exact, first, tidy, returns.1 ⟨again, second⟩, again, second, kept, rest⟩

end Style

end Pagewright
