import Pagewright.Proofs.Fault.Yields
import Pagewright.Proofs.Number.Written
import Pagewright.Slot.Definition

/-!
# Pagewright.Proofs.Slot.Record

Slots written as records and read again.  A record leaves out what is empty, and reading it fills in a type and a
label, so a slot comes back exactly when it has a type, and a label if it has a key, and so have the slots inside
it.  Every slot that is read from a record is one of these.
-/

namespace Pagewright

/-! ## texts of data -/

namespace Value

/-- What counts as given is not shown as an empty text. -/
theorem display_ne_empty {v : Value} (h : v.isTruthy = true) : v.display ≠ "" := by
  have opened {s t : String} (some : s ≠ "") : s ++ t ≠ "" := fun none =>
    some (String.append_eq_empty_iff.1 none).1
  cases v with
  | null => cases h
  | bool b =>
      show (if b then "True" else "False") ≠ ""
      split <;> decide
  | int i =>
      show i.repr ≠ ""
      rw [Int.repr_eq_if]
      split
      · exact Nat.repr_ne_empty
      · exact opened (by decide)
  | float x => exact x.text_ne_empty
  | str s =>
      rintro rfl
      cases h
  | list items => exact opened (opened (by decide))
  | obj ms => exact opened (opened (by decide))

/-- Nothing is shown of a choice only if nothing is shown of its last option. -/
theorem display_of_orElse_eq_empty {v w : Value} (h : (v.orElse w).display = "") : w.display = "" := by
  unfold orElse at h
  split at h
  · next some => exact absurd h (display_ne_empty some)
  · exact h

/-- An empty text gives way to what comes next. -/
theorem display_orElse_str (s : String) (w : Value) :
    ((Value.str s).orElse w).display = if s = "" then w.display else s := by
  by_cases none : s = ""
  · subst none
    rfl
  · have some : (Value.str s).isTruthy = true := by simpa [isTruthy] using none
    rw [orElse, if_pos some, if_neg none]
    rfl

end Value

namespace Slot

/-! ## slots in full -/

/-- Whether a slot is told in full: it has a type, it has a label if it has a key, and so have the slots inside. -/
inductive Definition.IsFull : Definition → Prop
  | mk {slot : Definition} (typed : slot.type ≠ "") (labelled : slot.label = "" → slot.key = "")
      (inside : ∀ s ∈ slot.subSlots, s.IsFull) : slot.IsFull

/-- A slot among the slots inside another one, at any depth, or the other one itself. -/
inductive Definition.IsWithin : Definition → Definition → Prop
  | self (slot : Definition) : slot.IsWithin slot
  | inside {s inner slot : Definition} (mem : inner ∈ slot.subSlots) (deeper : s.IsWithin inner) : s.IsWithin slot

/-- What is told in full is so all the way down. -/
theorem Definition.IsFull.of_isWithin {s slot : Definition} (h : slot.IsFull) (within : s.IsWithin slot) :
    s.IsFull := by
  induction within with
  | self => exact h
  | inside mem _ ih =>
      obtain ⟨-, -, inside⟩ := h
      exact ih (inside _ mem)

namespace Definition

/-! ## reading a record -/

/-- The slots under the first spelling that a record has for them. -/
def listedSlots : Option Value → Except Fault (List Definition)
  | some (.list items) => ofItems items
  | some v => noItems v
  | none => .ok []

/-- What the slot of a record is made of. -/
theorem ofMembers_eq (ms : Members) :
    ofMembers ms = (do
      let options ← listedTexts (ms.get "options")
      let subSlots ← listedSlots (ms.first? ["sub_slots", "subSlots"])
      return {
        key := ((ms.get? "key").getD (.str "")).display
        label := ((ms.get "label").orElse ((ms.get? "key").getD (.str ""))).display
        type := ((ms.get "type").orElse (.str "text")).display
        required := (ms.get "required").isTruthy
        default := ms.get "default"
        options
        subSlots }) := by
  rw [ofMembers]
  refine bind_congr fun options => ?_
  split <;> simp only [*, listedSlots] <;> rfl

/-- Slots that are listed as no list are none. -/
theorem yields_isFull_noItems (v : Value) : Yields (fun slots => ∀ s ∈ slots, s.IsFull) (noItems v) := by
  unfold noItems
  split
  · exact yields_ok (List.forall_mem_nil _)
  · exact yields_ok (List.forall_mem_nil _)
  · split
    · exact yields_error _
    · exact yields_ok (List.forall_mem_nil _)

/-- What is read from records is told in full. -/
theorem yields_isFull :
    (∀ ms, Yields IsFull (ofMembers ms)) ∧
      ∀ items, Yields (fun slots => ∀ s ∈ slots, s.IsFull) (ofItems items) := by
  -- along the recursion of the reader, through a record and through the items of a list in turn
  apply ofMembers.mutual_induct
  case case1 =>
    intro ms ih
    have nested : Yields (fun slots => ∀ s ∈ slots, s.IsFull)
        (listedSlots (ms.first? ["sub_slots", "subSlots"])) := by
      unfold listedSlots
      split
      · next items found => exact ih items found
      · exact yields_isFull_noItems _
      · exact yields_ok (List.forall_mem_nil _)
    rw [ofMembers_eq]
    refine Yields.bind fun options _ => Yields.bind fun subSlots found => yields_ok ⟨?_, ?_, nested _ found⟩
    · exact fun none => absurd (Value.display_of_orElse_eq_empty none) (by decide)
    · exact Value.display_of_orElse_eq_empty
  case case2 =>
    rw [ofItems]
    exact yields_ok (List.forall_mem_nil _)
  case case3 =>
    intro ms items slot slots
    rw [ofItems]
    refine Yields.bind fun s first => Yields.bind fun rest read => yields_ok ?_
    exact List.forall_mem_cons.2 ⟨slot s first, slots rest read⟩
  case case4 =>
    intro v items other slots
    rw [ofItems]
    · exact slots
    · exact other

/-! ## writing a record -/

section

variable (slot : Definition)

theorem get?_key_toMembers : Members.get? "key" slot.toMembers = some (.str slot.key) := by
  cases slot
  rfl

theorem get_label_toMembers : Members.get "label" slot.toMembers = .str slot.label := by
  cases slot
  rfl

theorem get_type_toMembers : Members.get "type" slot.toMembers = .str slot.type := by
  cases slot
  rfl

theorem get_required_toMembers : Members.get "required" slot.toMembers = .bool slot.required := by
  cases slot
  rfl

/-- A default is left out only if it is null, which is what is read where nothing stands. -/
theorem get_default_toMembers : Members.get "default" slot.toMembers = slot.default := by
  obtain ⟨key, label, type, required, default, options, subSlots⟩ := slot
  cases default <;> cases options <;> cases subSlots <;> rfl

/-- Options are left out if there are none, and then none are read. -/
theorem get_options_toMembers :
    Members.get "options" slot.toMembers =
      if slot.options.isEmpty then .null else .list (slot.options.map .str) := by
  obtain ⟨key, label, type, required, default, options, subSlots⟩ := slot
  cases default <;> cases options <;> cases subSlots <;> rfl

/-- So are the slots inside. -/
theorem first?_subSlots_toMembers :
    Members.first? slot.toMembers ["sub_slots", "subSlots"] =
      if slot.subSlots.isEmpty then none else some (.list (toItems slot.subSlots)) := by
  obtain ⟨key, label, type, required, default, options, subSlots⟩ := slot
  cases default <;> cases options <;> cases subSlots <;> rfl

/-- The options are read back. -/
theorem listedTexts_toMembers : listedTexts (Members.get "options" slot.toMembers) = .ok slot.options := by
  rw [get_options_toMembers]
  cases slot.options with
  | nil => rfl
  | cons option options =>
      have shown : ((option :: options).map Value.str).map Value.display = option :: options := by
        rw [List.map_map]
        exact List.map_id'' (fun _ => rfl) _
      exact congrArg Except.ok shown

/-- The slots inside are read from the records that were written for them. -/
theorem listedSlots_toMembers :
    listedSlots (Members.first? slot.toMembers ["sub_slots", "subSlots"]) = ofItems (toItems slot.subSlots) := by
  rw [first?_subSlots_toMembers]
  cases slot.subSlots with
  | nil => rw [toItems, ofItems]; rfl
  | cons inner rest => rfl

end

/-- If each slot comes back, the list of them does. -/
theorem ofItems_toItems {slots : List Definition} (h : ∀ s ∈ slots, ofMembers s.toMembers = .ok s) :
    ofItems (toItems slots) = .ok slots := by
  induction slots with
  | nil => rw [toItems, ofItems]
  | cons s slots ih =>
      obtain ⟨first, rest⟩ := List.forall_mem_cons.1 h
      rw [toItems, ofItems, first, ih rest]
      rfl

/-- A slot that is told in full comes back from its record. -/
theorem IsFull.ofMembers_toMembers {slot : Definition} (h : slot.IsFull) :
    ofMembers slot.toMembers = .ok slot := by
  induction h with
  | @mk slot typed labelled _ ih =>
      have label : ((Value.str slot.label).orElse (.str slot.key)).display = slot.label := by
        rw [Value.display_orElse_str]
        split
        · next none => exact (labelled none).trans none.symm
        · rfl
      have type : ((Value.str slot.type).orElse (.str "text")).display = slot.type := by
        rw [Value.display_orElse_str, if_neg typed]
      rw [ofMembers_eq, listedTexts_toMembers, listedSlots_toMembers, ofItems_toItems ih, get?_key_toMembers,
        get_label_toMembers, get_type_toMembers, get_required_toMembers, get_default_toMembers,
        Option.getD_some, label, type]
      cases slot
      rfl

/-- The slots that come back from their records are those that are told in full. -/
theorem ofMembers_toMembers_iff {slot : Definition} : ofMembers slot.toMembers = .ok slot ↔ slot.IsFull :=
  ⟨yields_isFull.1 _ slot, IsFull.ofMembers_toMembers⟩

end Definition

end Slot

end Pagewright
