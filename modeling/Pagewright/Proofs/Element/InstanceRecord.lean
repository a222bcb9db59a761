import Pagewright.Element.Instance
import Pagewright.Proofs.Element.Record
import Pagewright.Proofs.Json.Texts
import Pagewright.Proofs.Value.Members

/-!
# Pagewright.Proofs.Element.InstanceRecord

Instances written as records and read again.  A record has the slot data as they are, and whoever reads it takes a
text there for a column that is still to be decoded, and null for a missing one.  So slot data come back unless a
column was decoded to null or to another such text; what is no JSON text stays what it is.  Everything else in an
instance always comes back.
-/

namespace Pagewright

open Text

/-! ## decoding again -/

/-- What a text in a column is decoded to. -/
theorem decodeColumn_str_iff {s : String} {decoded : Value} :
    decodeColumn (.str s) = .ok decoded ↔
      trim s.toList = [] ∧ decoded = .obj [] ∨
      trim s.toList ≠ [] ∧ (Json.read s = .ok decoded ∨ Json.read s = .error .malformed ∧ decoded = .str s) := by
  unfold decodeColumn
  dsimp only
  by_cases blank : trim s.toList = []
  · simp [blank, @eq_comm _ decoded]
  · cases Json.read s with
    | ok inner => simp [blank]
    | error e => cases e <;> simp [blank, @eq_comm _ decoded]

/-- A column is left as it is if it is no text, or a text that is neither blank nor JSON text. -/
theorem decodeColumn_eq_self_iff {v : Value} :
    decodeColumn v = .ok v ↔ ∀ s, v = .str s → trim s.toList ≠ [] ∧ Json.read s = .error .malformed := by
  cases v with
  | str s => simp [decodeColumn_str_iff, Json.read_ne_self]
  | _ => exact ⟨fun _ _ => nofun, fun _ => rfl⟩

/-- Whether JSON text holds null, or a text that is again taken for a column: a blank one, or JSON text. -/
def HoldsColumn (s : String) : Prop :=
  Json.read s = .ok .null ∨
    ∃ t, Json.read s = .ok (.str t) ∧ (trim t.toList = [] ∨ Json.read t ≠ .error .malformed)

/-- Decoding a column gives something that stays, unless the column holds another one. -/
theorem decodeColumn_stays_iff {v decoded : Value} (given : v ≠ .null) (h : decodeColumn v = .ok decoded) :
    decoded ≠ .null ∧ decodeColumn decoded = .ok decoded ↔
      ¬ ∃ s, v = .str s ∧ trim s.toList ≠ [] ∧ HoldsColumn s := by
  rw [decodeColumn_eq_self_iff]
  cases v with
  | str s =>
      obtain ⟨blank, rfl⟩ | ⟨solid, read | ⟨read, rfl⟩⟩ := decodeColumn_str_iff.1 h
      · simp [blank]
      · simp only [HoldsColumn, read, Value.str.injEq, exists_eq_left', Except.ok.injEq, solid, ne_eq,
          not_false_eq_true, true_and, not_or, not_exists, not_and, Classical.not_not]
      · simp [HoldsColumn, read, solid]
  | null => exact absurd rfl given
  | _ =>
      cases h
      simp

namespace Instance

/-! ## records of instances -/

/-- What an instance with an id comes back as. -/
theorem ofValue_toMembers {i : Instance} (named : i.id ≠ .null) :
    ofValue (.obj i.toMembers) = (do
      let slotData ← decodeColumn (if i.slotData.isNull then .obj [] else i.slotData)
      return { i with slotData }) := by
  have slotData : (Value.obj i.toMembers).first? ["slotData", "slot_data", "slot_data_json"] =
      .ok (if i.slotData.isNull then none else some i.slotData) := rfl
  have styleData : (Value.obj i.toMembers).first? ["styleData", "style_data", "style_data_json"] =
      .ok (some (.obj i.styleData)) := rfl
  have id : (Value.obj i.toMembers).first? ["instanceId", "instance_id", "id"] = .ok (some i.id) :=
    congrArg Except.ok (Members.first?_of_get? rfl named _)
  have slug : (Value.obj i.toMembers).memberText "slug" "" = .ok i.slug := rfl
  have place : (Value.obj i.toMembers).first? ["sortOrder", "sort_order"] = .ok (some (.int i.sortOrder)) := rfl
  have column : (if i.slotData.isNull then none else some i.slotData).getD (.obj []) =
      if i.slotData.isNull then .obj [] else i.slotData := by
    split <;> rfl
  rw [ofValue, slotData, styleData, id, slug, place]
  show (decodeColumn (Option.getD _ _) >>= _) = _
  rw [column]
  refine bind_congr fun slotData => ?_
  show ((Value.int i.sortOrder).integerOr 0 >>= _) = _
  rw [Value.integerOr_zero_int]
  rfl

/-- What an instance of a record is made of. -/
theorem exists_of_ofValue {ms : Members} {i : Instance} (h : ofValue (.obj ms) = .ok i) :
    i.id ≠ .null ∧ decodeColumn
      ((ms.first? ["slotData", "slot_data", "slot_data_json"]).getD (.obj [])) = .ok i.slotData := by
  obtain ⟨column, first, h⟩ := bind_eq_ok_iff.1 h
  obtain ⟨slotData, decoded, h⟩ := bind_eq_ok_iff.1 h
  obtain ⟨_, -, h⟩ := bind_eq_ok_iff.1 h
  obtain ⟨_, -, h⟩ := bind_eq_ok_iff.1 h
  obtain ⟨id, named, h⟩ := bind_eq_ok_iff.1 h
  obtain ⟨_, -, h⟩ := bind_eq_ok_iff.1 h
  obtain ⟨_, -, h⟩ := bind_eq_ok_iff.1 h
  obtain ⟨_, -, h⟩ := bind_eq_ok_iff.1 h
  cases h
  cases first
  cases named
  exact ⟨Members.getD_first?_ne_null nofun, decoded⟩

/-- The slot data that stay when they are read once more. -/
theorem reread_slotData_iff {v : Value} :
    decodeColumn (if v.isNull then .obj [] else v) = .ok v ↔ v ≠ .null ∧ decodeColumn v = .ok v := by
  by_cases null : v.isNull = true
  · cases Value.isNull_iff.1 null
    simp [decodeColumn, Value.isNull]
  · rw [if_neg null]
    exact (and_iff_right fun eq => null (Value.isNull_iff.2 eq)).symm

/-- An instance comes back from its record unless the column of its slot data was JSON text that holds null or
another column.  Nothing but the slot data can change. -/
theorem instance_comes_back_iff {ms : Members} {i : Instance} (h : ofValue (.obj ms) = .ok i) :
    (ofValue (.obj i.toMembers) = .ok i ↔
      ¬ ∃ s, ms.first? ["slotData", "slot_data", "slot_data_json"] = some (.str s) ∧
        trim s.toList ≠ [] ∧ HoldsColumn s) ∧
    ∀ j, ofValue (.obj i.toMembers) = .ok j → j = { i with slotData := j.slotData } := by
  obtain ⟨named, decoded⟩ := exists_of_ofValue h
  rw [ofValue_toMembers named]
  constructor
  · have back : (decodeColumn (if i.slotData.isNull then .obj [] else i.slotData) >>= fun slotData =>
        pure { i with slotData }) = .ok i ↔ i.slotData ≠ .null ∧ decodeColumn i.slotData = .ok i.slotData := by
      rw [← reread_slotData_iff, bind_eq_ok_iff]
      constructor
      · rintro ⟨slotData, read, eq⟩
        have same : slotData = i.slotData := congrArg Instance.slotData (Except.ok.inj eq)
        exact same ▸ read
      · exact fun read => ⟨_, read, rfl⟩
    have given : (ms.first? ["slotData", "slot_data", "slot_data_json"]).getD (.obj []) ≠ .null :=
      Members.getD_first?_ne_null nofun
    have column (s : String) : (ms.first? ["slotData", "slot_data", "slot_data_json"]).getD (.obj []) = .str s ↔
        ms.first? ["slotData", "slot_data", "slot_data_json"] = some (.str s) := by
      cases ms.first? ["slotData", "slot_data", "slot_data_json"] <;> simp
    rw [back, decodeColumn_stays_iff given decoded]
    simp only [column]
  · intro j read
    obtain ⟨slotData, -, eq⟩ := bind_eq_ok_iff.1 read
    cases eq
    rfl

/-- A hero whose slot data are broken JSON text, as the form of an editor has it. -/
def brokenHero : Members :=
  [("instance_id", .str "a1"), ("slug", .str "hero"), ("slot_data", .null), ("slotData", .str "\x7bbroken"),
    ("style_data_json", .str "[1]"), ("sort_order", .str "3")]

theorem instance_comes_back_iff_broken :
    ofValue (.obj brokenHero) = .ok ⟨.str "a1", "hero", .str "\x7bbroken", [], 3⟩ ∧
      ofValue (.obj (toMembers ⟨.str "a1", "hero", .str "\x7bbroken", [], 3⟩)) =
        .ok ⟨.str "a1", "hero", .str "\x7bbroken", [], 3⟩ := by
  have made : ofValue (.obj brokenHero) = .ok ⟨.str "a1", "hero", .str "\x7bbroken", [], 3⟩ := rfl
  have malformed : Json.read "\x7bbroken" = .error .malformed := rfl
  refine ⟨made, (instance_comes_back_iff made).1.2 ?_⟩
  rintro ⟨s, column, -, holds⟩
  cases column
  rw [HoldsColumn, malformed] at holds
  rcases holds with null | ⟨t, text, -⟩
  · cases null
  · cases text

/-- Slot data that were decoded to null come back as an empty object, and slot data that were decoded to a text
come back decoded once more. -/
theorem instance_does_not_come_back :
    ofValue (.obj [("id", .int 1), ("slug", .str "hero"), ("slotData", .str "null")]) =
        .ok ⟨.int 1, "hero", .null, [], 0⟩ ∧
      ofValue (.obj (toMembers ⟨.int 1, "hero", .null, [], 0⟩)) ≠ .ok ⟨.int 1, "hero", .null, [], 0⟩ ∧
      ofValue (.obj [("id", .int 1), ("slug", .str "hero"), ("slot_data_json", .str "\"\x7b\x7d\"")]) =
        .ok ⟨.int 1, "hero", .str "\x7b\x7d", [], 0⟩ ∧
      ofValue (.obj (toMembers ⟨.int 1, "hero", .str "\x7b\x7d", [], 0⟩)) ≠
        .ok ⟨.int 1, "hero", .str "\x7b\x7d", [], 0⟩ := by
  have null : ofValue (.obj (toMembers ⟨.int 1, "hero", .null, [], 0⟩)) = .ok ⟨.int 1, "hero", .obj [], [], 0⟩ := rfl
  have text : ofValue (.obj (toMembers ⟨.int 1, "hero", .str "\x7b\x7d", [], 0⟩)) =
      .ok ⟨.int 1, "hero", .obj [], [], 0⟩ := rfl
  refine ⟨rfl, ?_, rfl, ?_⟩
  · rw [null]
    exact nofun
  · rw [text]
    exact nofun

end Instance

end Pagewright
