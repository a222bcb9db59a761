import Pagewright.Proofs.Fault.Yields
import Pagewright.Proofs.Value.Members
import Pagewright.Style.Clean

/-!
# Pagewright.Proofs.Style.Lookup

What stands under a field of clean style data.  Each kind of field is cleaned on its own, and the results are
put one after the other; since no field is of two kinds, the clean value of a field depends on nothing but the
field itself.
-/

namespace Pagewright

namespace Style

/-! ## the kinds of fields -/

/-- What stands under a field once it is clean. -/
def cleanField? (settings : Settings) (data : Members) (field : String) : Except Fault (Option Value) :=
  let v := data.get field
  if field ∈ numericFields then cleanNumber? settings field v
  else if field = "opacity" then cleanOpacity? v
  else .ok <|
    if field ∈ unitFields then cleanUnit? v
    else if field ∈ colorFields then cleanColor? v
    else if field ∈ choiceFields.map (·.1) then (choiceFields.lookup field).bind (cleanChoice? · v)
    else if field = "bg_image" then cleanImage? v
    else if field ∈ dimensionFields then cleanDimension? v
    else if field = "custom_class" then cleanClasses? v
    else if field = "custom_css" then cleanCss? settings v
    else if field ∈ flagFields then (data.get? field).map fun v => .bool v.isTruthy
    else none

/-- The fields of every kind, in the order in which they are cleaned. -/
def fieldKinds : List (List String) :=
  [numericFields, ["opacity"], unitFields, colorFields, choiceFields.map (·.1), ["bg_image"], dimensionFields,
    ["custom_class"], ["custom_css"], flagFields]

/-- No field is of two kinds. -/
theorem pairwise_fieldKinds : fieldKinds.Pairwise fun fields others => ∀ field ∈ fields, field ∉ others := by
  decide +kernel

variable {settings : Settings} {raw data : Members}

/-- The members of a kind of fields that are cleaned alike. -/
theorem get?_cleanFields (data : Members) (fields : List String) (clean? : Value → Option Value)
    (key : String) :
    Members.get? key (cleanFields data fields clean?) =
      if key ∈ fields then clean? (data.get key) else none :=
  Members.get?_filterMap fields (fun field => clean? (data.get field)) key

/-- The members with choices, each field with its own. -/
theorem get?_cleanChoices (data : Members) (key : String) :
    Members.get? key (choiceFields.filterMap fun (field, choices) =>
        (cleanChoice? choices (data.get field)).map (field, ·)) =
      if key ∈ choiceFields.map (·.1) then
        (choiceFields.lookup key).bind (cleanChoice? · (data.get key)) else none := by
  have named : (choiceFields.filterMap fun (field, choices) =>
        (cleanChoice? choices (data.get field)).map (field, ·)) =
      (choiceFields.map (·.1)).filterMap fun field =>
        ((choiceFields.lookup field).bind (cleanChoice? · (data.get field))).map (field, ·) := rfl
  rw [named, Members.get?_filterMap]

/-- The numeric fields are cleaned together exactly when each of them is. -/
theorem exists_cleanNumbers_iff :
    (∃ numbers, cleanNumbers settings data = .ok numbers) ↔
      ∀ field ∈ numericFields, ∃ v, cleanNumber? settings field (data.get field) = .ok v := by
  unfold cleanNumbers
  rw [exists_map_iff, exists_mapM_iff]
  exact forall₂_congr fun field _ => exists_map_iff

/-- The clean value of a numeric field, if it comes about. -/
def numberOf? (settings : Settings) (data : Members) (field : String) : Option Value :=
  (cleanNumber? settings field (data.get field)).toOption.join

/-- If the numeric fields are cleaned together, each has a result. -/
theorem cleanNumber?_eq_ok {numbers : Members} (h : cleanNumbers settings data = .ok numbers) :
    ∀ field ∈ numericFields,
      cleanNumber? settings field (data.get field) = .ok (numberOf? settings data field) := by
  intro field mem
  obtain ⟨v, cleaned⟩ := exists_cleanNumbers_iff.1 ⟨numbers, h⟩ field mem
  simp [numberOf?, cleaned, Except.toOption]

/-- The result of all of them is made of these. -/
theorem cleanNumbers_eq {numbers : Members} (h : cleanNumbers settings data = .ok numbers) :
    numbers = numericFields.filterMap fun field => (numberOf? settings data field).map (field, ·) := by
  have together : cleanNumbers settings data =
      .ok (numericFields.filterMap fun field => (numberOf? settings data field).map (field, ·)) := by
    unfold cleanNumbers
    rw [mapM_eq_map (g := fun field => (numberOf? settings data field).map (field, ·))]
    · simp [bind, Except.bind, pure, Except.pure, List.filterMap_map]
    · intro field mem
      rw [cleanNumber?_eq_ok h field mem]
      rfl
  exact Except.ok.inj (h.symm.trans together)

/-- The members of numeric fields. -/
theorem get?_cleanNumbers {numbers : Members} (h : cleanNumbers settings data = .ok numbers)
    (key : String) :
    (if key ∈ numericFields then cleanNumber? settings key (data.get key) else .ok none) =
      .ok (numbers.get? key) := by
  rw [cleanNumbers_eq h, Members.get?_filterMap]
  split
  · next mem => exact cleanNumber?_eq_ok h key mem
  · rfl

/-- A kind with one field. -/
theorem get?_single (name key : String) (v : Option Value) :
    Members.get? key (v.map (name, ·)).toList = if key ∈ [name] then v else none := by
  by_cases same : key = name
  · cases v <;> simp [Members.get?, same]
  · cases v <;> simp [Members.get?, same, Ne.symm same]

/-- The members of flags, which are there only if they were given. -/
theorem get?_cleanFlags (data : Members) (key : String) :
    Members.get? key (flagFields.filterMap fun field =>
        (data.get? field).map fun v => (field, Value.bool v.isTruthy)) =
      if key ∈ flagFields then (data.get? key).map fun v => .bool v.isTruthy else none := by
  rw [← Members.get?_filterMap flagFields fun field => (data.get? field).map fun v => .bool v.isTruthy]
  simp only [Option.map_map, Function.comp_def]

/-- A field that is of none of some kinds has no value among them. -/
theorem foldr_eq_none {field : String} {kinds : List (List String × Option Value)}
    (out : ∀ kind ∈ kinds, field ∉ kind.1) :
    kinds.foldr (fun kind rest => if field ∈ kind.1 then kind.2 else rest) none = none := by
  induction kinds with
  | nil => rfl
  | cons kind kinds ih =>
      rw [List.foldr_cons, if_neg (out kind (List.mem_cons_self ..))]
      exact ih fun other later => out other (List.mem_cons_of_mem _ later)

/-- The first of some values for kinds of fields is that of the one kind which a field has. -/
theorem foldr_or_eq {field : String} {kinds : List (List String × Option Value)}
    (apart : kinds.Pairwise fun kind other => field ∈ kind.1 → field ∉ other.1) :
    kinds.foldr (fun kind rest => (if field ∈ kind.1 then kind.2 else none).or rest) none =
      kinds.foldr (fun kind rest => if field ∈ kind.1 then kind.2 else rest) none := by
  induction kinds with
  | nil => rfl
  | cons kind kinds ih =>
      obtain ⟨first, apart⟩ := List.pairwise_cons.1 apart
      rw [List.foldr_cons, List.foldr_cons, ih apart]
      split
      · next mem => rw [foldr_eq_none fun other later => first other later mem, Option.or_none]
      · rfl

/-- The clean value of a field depends on nothing but the field. -/
theorem cleanField?_of_cleanMembers (h : cleanMembers settings raw = .ok data) (field : String) :
    cleanField? settings (normalize raw) field = .ok (data.get? field) := by
  obtain ⟨numbers, cleaned, h⟩ := bind_eq_ok_iff.1 h
  obtain ⟨opacity, held, made⟩ := bind_eq_ok_iff.1 h
  cases made
  have number := get?_cleanNumbers cleaned field
  let v := (normalize raw).get field
  -- the kinds in the order in which their members stand: only the field's own can have it
  let kinds : List (List String × Option Value) :=
    [(numericFields, numbers.get? field), (["opacity"], opacity), (unitFields, cleanUnit? v),
      (colorFields, cleanColor? v),
      (choiceFields.map (·.1), (choiceFields.lookup field).bind (cleanChoice? · v)),
      (["bg_image"], cleanImage? v), (dimensionFields, cleanDimension? v),
      (["custom_class"], cleanClasses? v), (["custom_css"], cleanCss? settings v),
      (flagFields, ((normalize raw).get? field).map fun v => .bool v.isTruthy)]
  have apart : (kinds.map (·.1)).Pairwise fun fields others => field ∈ fields → field ∉ others :=
    pairwise_fieldKinds.imp fun h => h field
  have chain := foldr_or_eq (List.pairwise_map.1 apart)
  simp only [kinds, List.foldr, Option.or_none] at chain
  simp only [Members.get?_append, get?_single, get?_cleanFields, get?_cleanChoices, get?_cleanFlags,
    Option.or_assoc]
  unfold cleanField?
  by_cases numeric : field ∈ numericFields
  · rw [if_pos numeric] at number
    rw [if_pos numeric, if_pos numeric] at chain
    rw [if_pos numeric, number]
    exact congrArg Except.ok chain.symm
  · rw [if_neg numeric] at number
    rw [if_neg numeric, if_neg numeric, Option.none_or] at chain
    rw [← Except.ok.inj number, Option.none_or, chain]
    by_cases single : field = "opacity"
    · subst single
      simpa [numeric] using held
    · simp only [numeric, single, List.mem_singleton, if_false]
      rfl

end Style

end Pagewright
