import Pagewright.Element.Basic
import Pagewright.Proofs.Slot.Record

/-!
# Pagewright.Proofs.Element.Record

Elements written as records and read again.  An element that is read from a record has slots that are told in full,
so it comes back from its own record but for one thing: a version of zero is taken for no version.
-/

namespace Pagewright

/-! ## columns of a record -/

/-- An integer is read as itself, but zero counts as missing. -/
theorem Value.integerOr_int (default i : Int) : (Value.int i).integerOr default = .ok (if i = 0 then default else i) := by
  by_cases zero : i = 0
  · subst zero
    rfl
  · have some : (Value.int i).isTruthy = true := by simpa [Value.isTruthy] using zero
    rw [Value.integerOr, if_pos some, if_neg zero]
    rfl

theorem Value.integerOr_zero_int (i : Int) : (Value.int i).integerOr 0 = .ok i := by
  rw [Value.integerOr_int]
  split
  · next zero => exact congrArg Except.ok zero.symm
  · rfl

theorem Value.optionalText_str {key s : String} {ms : Members} (h : ms.get key = .str s) :
    (Value.obj ms).optionalText key = .ok s := by
  have shown : ((Value.str s).orElse (.str "")).display = s := by
    rw [Value.display_orElse_str]
    split
    · next none => exact none.symm
    · rfl
  show Except.ok ((ms.get key).orElse (.str "")).display = _
  rw [h, shown]

namespace Element

/-- The slots of an element that is read from a record are told in full. -/
theorem yields_isFull_slots (record : Value) : Yields (fun e => ∀ s ∈ e.slots, s.IsFull) (ofValue record) := by
  have slots (column : Value) : Yields (fun slots => ∀ s ∈ slots, s.IsFull) (slotsOf column) := by
    unfold slotsOf
    split
    · exact Slot.Definition.yields_isFull.2 _
    · exact yields_ok (List.forall_mem_nil _)
  refine Yields.bind fun _ _ => Yields.bind fun column _ => Yields.bind fun read full => ?_
  repeat refine Yields.bind fun _ _ => ?_
  exact yields_ok (slots column read full)

/-- What an element with slots that are told in full comes back as. -/
theorem ofValue_toMembers {e : Element} (h : ∀ s ∈ e.slots, s.IsFull) :
    ofValue (.obj e.toMembers) = .ok { e with version := if e.version = 0 then 1 else e.version } := by
  have slots := Slot.Definition.ofItems_toItems fun s mem => (h s mem).ofMembers_toMembers
  -- each column in the spelling in which it is written; of these only a version of zero is read as something else
  have columns : (Value.obj e.toMembers).first? ["slots", "slots_json"] =
      .ok (some (.list (Slot.Definition.toItems e.slots))) := rfl
  have active : activeOf (.obj e.toMembers) = .ok e.active := rfl
  have id : (Value.obj e.toMembers).first? ["id", "element_id"] = .ok (some (.int e.id)) := rfl
  have html : (Value.obj e.toMembers).first? ["html_template", "htmlTemplate", "template"] =
      .ok (some (.str e.html)) := rfl
  have slug : (Value.obj e.toMembers).memberText "slug" "" = .ok e.slug := rfl
  have name : (Value.obj e.toMembers).memberText "name" "" = .ok e.name := rfl
  have version : (Value.obj e.toMembers).member "version" = .ok (.int e.version) := rfl
  have css : (Value.obj e.toMembers).optionalText "css" = .ok e.css := Value.optionalText_str rfl
  have category : (Value.obj e.toMembers).optionalText "category" = .ok e.category := Value.optionalText_str rfl
  have description : (Value.obj e.toMembers).optionalText "description" = .ok e.description :=
    Value.optionalText_str rfl
  have number : (Value.int e.version).integerOr 1 = .ok (if e.version = 0 then 1 else e.version) :=
    Value.integerOr_int ..
  rw [ofValue, columns, active, id, html, slug, name, version, css, category, description]
  simp only [bind, Except.bind, Option.getD_some, decodeColumn, slotsOf, slots, Value.integerOr_zero_int, number]
  rfl

/-- Slots come back from their records, at every depth, and so do elements, unless their version is zero. -/
theorem slots_and_elements_come_back :
    (∀ (ms : Members) (slot : Slot.Definition), Slot.Definition.ofMembers ms = .ok slot →
      ∀ s : Slot.Definition, s.IsWithin slot → Slot.Definition.ofMembers s.toMembers = .ok s) ∧
    ∀ (ms : Members) (e : Element), Element.ofValue (.obj ms) = .ok e →
      (Element.ofValue (.obj e.toMembers) = .ok e ↔ e.version ≠ 0) := by
  constructor
  · intro ms slot read s within
    exact ((Slot.Definition.yields_isFull.1 ms slot read).of_isWithin within).ofMembers_toMembers
  · intro ms e read
    rw [ofValue_toMembers (yields_isFull_slots _ e read)]
    constructor
    · intro back zero
      have version := congrArg Element.version (Except.ok.inj back)
      rw [if_pos zero, zero] at version
      cases version
    · intro nonzero
      rw [if_neg nonzero]

/-- The record of a slot for questions, each of which has a text. -/
def questionsRecord : Members :=
  [("key", .str "items"), ("type", .str "list"),
    ("subSlots", .list [.obj [("key", .str "q"), ("label", .str "")]])]

/-- The slot of a question. -/
def questionSlot : Slot.Definition := ⟨"q", "q", "text", false, .null, [], []⟩

/-- The slot that the record is read as. -/
def questionsSlot : Slot.Definition := ⟨"items", "items", "list", false, .null, [], [questionSlot]⟩

/-- The labels that are missing or empty come from the keys, and the type that is missing is that of texts. -/
theorem ofMembers_questionsRecord : Slot.Definition.ofMembers questionsRecord = .ok questionsSlot := by
  have question : Slot.Definition.ofMembers [("key", .str "q"), ("label", .str "")] = .ok questionSlot := by
    rw [Slot.Definition.ofMembers_eq]
    rfl
  rw [Slot.Definition.ofMembers_eq]
  show (do
      let subSlots ← Slot.Definition.ofItems [.obj [("key", .str "q"), ("label", .str "")]]
      return (⟨"items", "items", "list", false, .null, [], subSlots⟩ : Slot.Definition)) = _
  simp only [Slot.Definition.ofItems, question]
  rfl

/-- A row of a table of elements, whose slots are JSON text and which has no version. -/
def questionsRow : Members :=
  [("id", .str "4"), ("slug", .str "faq"), ("html_template", .str "<div></div>"),
    ("slots_json", .str
      "[\x7b\"key\": \"items\", \"type\": \"list\", \"subSlots\": [\x7b\"key\": \"q\", \"label\": \"\"\x7d]\x7d, 7]"),
    ("status", .str "draft")]

/-- The element that the row is read as. -/
def questions : Element := ⟨4, "faq", "", "<div></div>", "", [questionsSlot], 1, false, "", ""⟩

/-- The row is read with its slots, and what is no record among them is dropped. -/
theorem ofValue_questionsRow : ofValue (.obj questionsRow) = .ok questions := by
  show (do
      let slots ← Slot.Definition.ofItems [.obj questionsRecord, .int 7]
      return (⟨4, "faq", "", "<div></div>", "", slots, 1, false, "", ""⟩ : Element)) = _
  simp only [Slot.Definition.ofItems, ofMembers_questionsRecord]
  rfl

/-- Slot and element come back although they were read from incomplete records. -/
theorem slots_and_elements_come_back_questions :
    Slot.Definition.ofMembers questionsRecord = .ok questionsSlot ∧ questionSlot.IsWithin questionsSlot ∧
      Slot.Definition.ofMembers questionSlot.toMembers = .ok questionSlot ∧
      ofValue (.obj questionsRow) = .ok questions ∧ ofValue (.obj questions.toMembers) = .ok questions := by
  have within : questionSlot.IsWithin questionsSlot := .inside (List.mem_singleton_self _) (.self _)
  have slot := slots_and_elements_come_back.1 _ _ ofMembers_questionsRecord _ within
  have element := (slots_and_elements_come_back.2 _ _ ofValue_questionsRow).2 (by decide)
  exact ⟨ofMembers_questionsRecord, within, slot, ofValue_questionsRow, element⟩

end Element

end Pagewright
