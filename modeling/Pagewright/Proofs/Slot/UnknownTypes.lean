import Mathlib.Logic.Relation
import Pagewright.Proofs.Slot.Settling

/-!
# Pagewright.Proofs.Slot.UnknownTypes

Slots whose types name no kind of value.  Fitting goes down a tree of levels: lists of slots, each held
against some data.  A level has an outcome exactly when every slot with a value has one and every level
inside has one, so fitting fails exactly when it comes to a value of a slot with one of the two reserved
types.  Any other type that names no kind is reported at the place of the value, and the slot is left with
its default.
-/

namespace Pagewright.Slot

/-! ## levels -/

/-- Slots, and the data at a place that are fitted to them. -/
structure Level where
  path : String
  slots : List Definition
  data : Members

namespace Level

/-- The outcome of fitting the data to the slots, and the reports. -/
def fit (l : Level) : Except Fault (Members × List String) :=
  fitSlots l.path l.data (undeclared l.slots l.data) l.slots

/-- The place of the value of a slot. -/
def here (l : Level) (slot : Definition) : String := l.path ++ "." ++ slot.key

/-- The level inside an object that is the value of a slot. -/
def inObject (l : Level) (slot : Definition) (ms : Members) : Level := ⟨l.here slot, slot.subSlots, ms⟩

/-- The level inside an item of a list that is the value of a slot. -/
def inItem (l : Level) (slot : Definition) (index : Nat) (ms : Members) : Level :=
  ⟨l.here slot ++ "[" ++ toString index ++ "]", slot.subSlots, ms⟩

/-- The levels right inside the value of a slot. -/
inductive EntersBy (l : Level) (slot : Definition) : Level → Prop
  | object {ms : Members} (hk : slot.kind? = some .object) (deep : slot.subSlots ≠ [])
      (given : l.data.get slot.key = .obj ms) : EntersBy l slot (l.inObject slot ms)
  | item {items : List Value} {index : Nat} {ms : Members} (hk : slot.kind? = some .list)
      (deep : slot.subSlots ≠ []) (given : l.data.get slot.key = .list items)
      (item : items[index]? = some (.obj ms)) : EntersBy l slot (l.inItem slot index ms)

/-- The levels right inside a level. -/
def Enters (l inner : Level) : Prop := ∃ slot ∈ l.slots, l.EntersBy slot inner

/-- The level that the fitting of slot data begins with. -/
def start (slots : List Definition) (data : Members) : Level := ⟨"slot_data", slots, data⟩

/-- The levels that fitting comes to. -/
abbrev Reaches : Level → Level → Prop := Relation.ReflTransGen Enters

/-- A level right inside another one, and the data that stand for it in the outcome of the other.  Only the
last slot with a key is sure to have its value there, and items that are no objects have none. -/
inductive ShowsInside : Level × Members → Level × Members → Prop
  | object {l : Level} {out ms made : Members} {before after : List Definition} {slot : Definition}
      (split : l.slots = before ++ slot :: after) (last : slot.key ∉ after.map Definition.key)
      (hk : slot.kind? = some .object) (deep : slot.subSlots ≠ [])
      (given : l.data.get slot.key = .obj ms) (shown : out.get? slot.key = some (.obj made)) :
      ShowsInside (l, out) (l.inObject slot ms, made)
  | item {l : Level} {out ms made : Members} {before after : List Definition} {slot : Definition}
      {items outs : List Value} {index : Nat} (split : l.slots = before ++ slot :: after)
      (last : slot.key ∉ after.map Definition.key) (hk : slot.kind? = some .list)
      (deep : slot.subSlots ≠ []) (given : l.data.get slot.key = .list items)
      (item : items[index]? = some (.obj ms)) (shown : out.get? slot.key = some (.list outs))
      (same : outs[((items.take index).filterMap Value.members?).length]? = some (.obj made)) :
      ShowsInside (l, out) (l.inItem slot index ms, made)

/-- The levels that fitting comes to, with the data that stand for them in the outcome. -/
abbrev Shows : Level × Members → Level × Members → Prop := Relation.ReflTransGen ShowsInside

/-- A slot puts its default, if it has one, into what the slots before it made, and the slots behind it go on
from there.  If no other slot has its key, its default is all there is under the key. -/
structure LeavesDefault (l : Level) (before : List Definition) (slot : Definition)
    (after : List Definition) (out : Members) : Prop where
  between : ∃ made first last,
    fitSlots l.path l.data (undeclared l.slots l.data) before = .ok (made, first) ∧
    fitSlots l.path l.data (place slot.key slot.default none made) after = .ok (out, last)
  alone : slot.key ∉ (before ++ after).map Definition.key →
    out.get? slot.key = if slot.default.isNull then none else some slot.default

end Level

/-! ## slots one after the other -/

/-- The slots of a level are gone through from left to right, and the reports stand in that order. -/
theorem fitSlots_append (path : String) (data result : Members) (before after : List Definition) :
    fitSlots path data result (before ++ after) = (do
      let (made, first) ← fitSlots path data result before
      let (out, last) ← fitSlots path data made after
      return (out, first ++ last)) := by
  induction before generalizing result with
  | nil =>
      simp only [List.nil_append, fitSlots, bind, Except.bind]
      cases fitSlots path data result after <;> rfl
  | cons slot before ih =>
      simp only [List.cons_append, fitSlots_cons, ih, bind_assoc, pure_bind, List.append_assoc]

section

variable {path : String} {data result out : Members} {reports : List String}

/-- What slots make of data goes through each of them. -/
theorem fitSlots_split {before after : List Definition} {slot : Definition}
    (run : fitSlots path data result (before ++ slot :: after) = .ok (out, reports)) :
    ∃ made first value found last, fitSlots path data result before = .ok (made, first) ∧
      fitSlot path data slot = .ok (value, found) ∧
      fitSlots path data (place slot.key slot.default value made) after = .ok (out, last) ∧
      reports = first ++ (found ++ last) := by
  rw [fitSlots_append] at run
  obtain ⟨⟨made, first⟩, start, run⟩ := bind_eq_ok_iff.1 run
  obtain ⟨⟨_, _⟩, run, eq⟩ := bind_eq_ok_iff.1 run
  rw [fitSlots_cons] at run
  obtain ⟨⟨value, found⟩, fitted, run⟩ := bind_eq_ok_iff.1 run
  obtain ⟨⟨_, last⟩, rest, eqs⟩ := bind_eq_ok_iff.1 run
  cases eqs
  cases eq
  exact ⟨made, first, value, found, last, start, fitted, rest, rfl⟩

/-- A level breaks exactly when one of its slots does: what the others put into the result does not matter to
it. -/
theorem exists_fitSlots_iff {slots : List Definition} :
    (∃ fit, fitSlots path data result slots = .ok fit) ↔
      ∀ slot ∈ slots, ∃ fit, fitSlot path data slot = .ok fit := by
  induction slots generalizing result with
  | nil => exact ⟨fun _ => List.forall_mem_nil _, fun _ => ⟨_, rfl⟩⟩
  | cons slot slots ih =>
      rw [List.forall_mem_cons, fitSlots_cons]
      exact exists_bind_iff_and fun fit => exists_map_iff.trans ih

/-- A value that is put under its key is found there. -/
theorem get?_place_of_some (key : String) (default v : Value) (ms : Members) :
    (place key default (some v) ms).get? key = some v :=
  Members.get?_set_self ..

/-- A key that no slot has is left as it was. -/
theorem get?_fitSlots_of_not_mem {slots : List Definition}
    (run : fitSlots path data result slots = .ok (out, reports)) {key : String}
    (other : key ∉ slots.map Definition.key) : out.get? key = result.get? key := by
  induction slots generalizing result reports with
  | nil =>
      cases run
      rfl
  | cons slot slots ih =>
      rw [List.map_cons, List.mem_cons, not_or] at other
      rw [fitSlots_cons] at run
      obtain ⟨⟨value, found⟩, -, run⟩ := bind_eq_ok_iff.1 run
      obtain ⟨⟨_, last⟩, rest, eq⟩ := bind_eq_ok_iff.1 run
      cases eq
      rw [ih rest other.2, get?_place_of_ne _ _ _ _ other.1]

end

/-! ## values of slots -/

section

variable {path : String} {data : Members} {slot : Definition}

/-- A value that is given is fitted to the type of the slot. -/
theorem fitSlot_of_ne_null (given : data.get slot.key ≠ .null) :
    fitSlot path data slot = fitValue (path ++ "." ++ slot.key) (data.get slot.key) slot := by
  rw [fitSlot]
  simp only [isNull_eq_false given]
  rfl

/-- A missing value cannot break a slot, whatever its type: it is reported at most. -/
theorem fitSlot_of_eq_null (null : data.get slot.key = .null) : ∃ fit, fitSlot path data slot = .ok fit := by
  rw [fitSlot, null]
  exact ⟨_, rfl⟩

end

section

variable {path : String} {slot : Definition} {raw : Value}

/-- A type that is neither known nor reserved is reported, and nothing is put in place of the value. -/
theorem fitValue_unknownType (hk : slot.kind? = none) (free : reservedType? slot.type = none) :
    fitValue path raw slot = .ok (none, [(Misfit.unknownType slot.type).message path]) := by
  cases slot
  simp only [Definition.kind?] at hk
  simp only [fitValue, hk, free]
  rfl

/-- A reserved type is no known one. -/
theorem kind?_of_reservedType? {fault : Fault} (reserved : reservedType? slot.type = some fault) :
    slot.kind? = none := by
  unfold reservedType? at reserved
  split at reserved
  · next eq => rw [Definition.kind?, eq]; rfl
  · split at reserved
    · next eq => rw [Definition.kind?, eq]; rfl
    · cases reserved

/-- A reserved type breaks the fitting of any value. -/
theorem fitValue_reservedType {fault : Fault} (reserved : reservedType? slot.type = some fault) :
    fitValue path raw slot = .error fault := by
  have hk := kind?_of_reservedType? reserved
  cases slot
  simp only [Definition.kind?] at hk
  simp only [fitValue, hk, reserved]

/-- An object with slots of its own is a level at the same place. -/
theorem fitValue_object (hk : slot.kind? = some .object) (deep : slot.subSlots ≠ []) (ms : Members) :
    fitValue path (.obj ms) slot = (do
      let (made, found) ← Level.fit ⟨path, slot.subSlots, ms⟩
      return (some (.obj made), found)) := by
  cases slot
  simp only [Definition.kind?] at hk
  simp only [fitValue, hk, List.isEmpty_iff, deep, if_false]
  rfl

/-- The objects in a list are levels with their index in their place. -/
theorem fitValue_list (hk : slot.kind? = some .list) (deep : slot.subSlots ≠ []) (items : List Value) :
    fitValue path (.list items) slot = (do
      let (outs, found) ← fitItems (fun here ms => Level.fit ⟨here, slot.subSlots, ms⟩) path 0 items
      return (some (.list outs), found)) := by
  cases slot
  simp only [Definition.kind?] at hk
  simp only [fitValue, hk, List.isEmpty_iff, deep, if_false]
  rfl

end

/-! ## items of lists -/

section

variable {fit : String → Members → Except Fault (Members × List String)} {path : String} {index : Nat}
  {items : List Value}

/-- An object among items is fitted at its index, and the other items behind it. -/
theorem fitItems_obj (ms : Members) :
    fitItems fit path index (.obj ms :: items) = (do
      let (made, found) ← fit (path ++ "[" ++ toString index ++ "]") ms
      let (rest, more) ← fitItems fit path (index + 1) items
      return (.obj made :: rest, found ++ more)) := by
  rw [fitItems]

/-- An item that is no object is reported and left out. -/
theorem fitItems_of_members?_eq_none {item : Value} (none : item.members? = none) :
    fitItems fit path index (item :: items) = (do
      let (rest, more) ← fitItems fit path (index + 1) items
      return (rest, Misfit.needsObject.message (path ++ "[" ++ toString index ++ "]") :: more)) := by
  cases item with
  | obj ms => cases none
  | _ => rfl

/-- A datum with members is an object. -/
theorem eq_obj_of_members? {item : Value} {ms : Members} (h : item.members? = some ms) : item = .obj ms := by
  cases item with
  | obj other =>
      cases h
      rfl
  | _ => cases h

/-- Items have an outcome together exactly when each object among them has one. -/
theorem exists_fitItems_iff :
    (∃ fits, fitItems fit path index items = .ok fits) ↔
      ∀ i ms, items[i]? = some (.obj ms) →
        ∃ made, fit (path ++ "[" ++ toString (index + i) ++ "]") ms = .ok made := by
  induction items generalizing index with
  | nil => exact ⟨fun _ i ms item => by simp at item, fun _ => ⟨_, rfl⟩⟩
  | cons item items ih =>
      have shift (i : Nat) : index + 1 + i = index + (i + 1) := by omega
      have rest : (∃ fits, fitItems fit path (index + 1) items = .ok fits) ↔ _ := ih
      simp only [shift] at rest
      rw [← Nat.and_forall_add_one]
      simp only [List.getElem?_cons_zero, List.getElem?_cons_succ, Option.some.injEq, Nat.add_zero, ← rest]
      cases object : item.members? with
      | some data =>
          obtain rfl := eq_obj_of_members? object
          simp only [Value.obj.injEq, forall_eq']
          rw [fitItems_obj]
          exact exists_bind_iff_and fun made => exists_map_iff
      | none =>
          rw [fitItems_of_members?_eq_none object, exists_map_iff, and_iff_right]
          rintro ms rfl
          cases object

/-- An object among items is fitted on its own, and its outcome has the place of the object among the
objects. -/
theorem fitItems_eq_ok {outs : List Value} {reports : List String}
    (run : fitItems fit path index items = .ok (outs, reports)) {i : Nat} {ms : Members}
    (item : items[i]? = some (.obj ms)) :
    ∃ made found, fit (path ++ "[" ++ toString (index + i) ++ "]") ms = .ok (made, found) ∧
      outs[((items.take i).filterMap Value.members?).length]? = some (.obj made) ∧ found ⊆ reports := by
  -- the index runs over all items, the place in the outcome over the objects only
  induction items generalizing index outs reports i with
  | nil => simp at item
  | cons first items ih =>
      have shift (i : Nat) : index + 1 + i = index + (i + 1) := by omega
      cases object : first.members? with
      | some data =>
          obtain rfl := eq_obj_of_members? object
          rw [fitItems_obj] at run
          obtain ⟨⟨made, found⟩, here, run⟩ := bind_eq_ok_iff.1 run
          obtain ⟨⟨rest, more⟩, later, eq⟩ := bind_eq_ok_iff.1 run
          cases eq
          cases i with
          | zero =>
              cases item
              exact ⟨made, found, here, rfl, List.subset_append_left ..⟩
          | succ i =>
              obtain ⟨inner, deep, eq, same, mem⟩ := ih later item
              rw [shift] at eq
              exact ⟨inner, deep, eq, same, List.subset_append_of_subset_right _ mem⟩
      | none =>
          rw [fitItems_of_members?_eq_none object] at run
          obtain ⟨⟨rest, more⟩, later, eq⟩ := bind_eq_ok_iff.1 run
          cases eq
          cases i with
          | zero =>
              cases item
              cases object
          | succ i =>
              obtain ⟨inner, deep, eq, same, mem⟩ := ih later item
              rw [shift] at eq
              refine ⟨inner, deep, eq, ?_, List.subset_cons_of_subset _ mem⟩
              rwa [List.take_succ_cons, List.filterMap_cons_none object]

end

/-! ## one level and the levels inside it -/

section

variable {l inner : Level} {slot : Definition} {value : Option Value} {found : List String}

/-- The outcome of an object is that of the level inside it. -/
theorem fitSlot_object (hk : slot.kind? = some .object) (deep : slot.subSlots ≠ []) {ms : Members}
    (given : l.data.get slot.key = .obj ms) (run : fitSlot l.path l.data slot = .ok (value, found)) :
    ∃ made, (l.inObject slot ms).fit = .ok (made, found) ∧ value = some (.obj made) := by
  rw [fitSlot_of_ne_null (by rw [given]; exact nofun), given, fitValue_object hk deep] at run
  obtain ⟨⟨made, _⟩, inside, eq⟩ := bind_eq_ok_iff.1 run
  cases eq
  exact ⟨made, inside, rfl⟩

/-- The outcome of a list has that of each level inside, counted among the objects only, as the other items are
left out. -/
theorem fitSlot_list (hk : slot.kind? = some .list) (deep : slot.subSlots ≠ []) {items : List Value}
    (given : l.data.get slot.key = .list items) (run : fitSlot l.path l.data slot = .ok (value, found))
    {index : Nat} {ms : Members} (item : items[index]? = some (.obj ms)) :
    ∃ outs made more, (l.inItem slot index ms).fit = .ok (made, more) ∧ more ⊆ found ∧
      value = some (.list outs) ∧
      outs[((items.take index).filterMap Value.members?).length]? = some (.obj made) := by
  rw [fitSlot_of_ne_null (by rw [given]; exact nofun), given, fitValue_list hk deep] at run
  obtain ⟨⟨outs, _⟩, inside, eq⟩ := bind_eq_ok_iff.1 run
  cases eq
  obtain ⟨made, more, here, same, mem⟩ := fitItems_eq_ok inside item
  rw [Nat.zero_add] at here
  exact ⟨outs, made, more, here, mem, rfl, same⟩

/-- Both ways into a level lead from an outcome outside to one inside, whose reports are passed on. -/
theorem Level.EntersBy.fit_eq_ok (enters : l.EntersBy slot inner)
    (run : fitSlot l.path l.data slot = .ok (value, found)) :
    ∃ made more, inner.fit = .ok (made, more) ∧ more ⊆ found := by
  cases enters with
  | object hk deep given =>
      obtain ⟨made, inside, -⟩ := fitSlot_object hk deep given run
      exact ⟨made, found, inside, List.Subset.refl _⟩
  | item hk deep given item =>
      obtain ⟨-, made, more, inside, mem, -⟩ := fitSlot_list hk deep given run item
      exact ⟨made, more, inside, mem⟩

/-- A scalar is fitted or reported, but it does not break. -/
theorem exists_scalar (path : String) (r : Except Misfit Value) : ∃ fit, Fit.scalar path r = .ok fit := by
  cases r <;> exact ⟨_, rfl⟩

/-- A value of a known type has an outcome if the levels inside it have one. -/
theorem exists_fitValue {kind : Kind} (hk : slot.kind? = some kind)
    (inside : ∀ inner, l.EntersBy slot inner → ∃ fit, inner.fit = .ok fit) :
    ∃ fit, fitValue (l.here slot) (l.data.get slot.key) slot = .ok fit := by
  obtain ⟨key, label, type, required, default, options, subSlots⟩ := slot
  have known := hk
  simp only [Definition.kind?] at known
  cases kind
  all_goals simp only [fitValue, known]
  case object =>
    split
    · next ms given =>
      split
      · exact ⟨_, rfl⟩
      · next deep => exact exists_map_iff.2 (inside _ (.object hk (mt List.isEmpty_iff.2 deep) given))
    · exact ⟨_, rfl⟩
  case list =>
    split
    · next items given =>
      split
      · exact ⟨_, rfl⟩
      · next deep =>
        refine exists_map_iff.2 (exists_fitItems_iff.2 fun index ms item => ?_)
        rw [Nat.zero_add]
        exact inside _ (.item hk (mt List.isEmpty_iff.2 deep) given item)
    · exact ⟨_, rfl⟩
  all_goals exact exists_scalar _ _

/-- A slot has an outcome exactly when it has no value or its type is not reserved, and the levels inside its
value have one. -/
theorem exists_fitSlot_iff :
    (∃ fit, fitSlot l.path l.data slot = .ok fit) ↔
      (l.data.get slot.key ≠ .null → reservedType? slot.type = none) ∧
        ∀ inner, l.EntersBy slot inner → ∃ fit, inner.fit = .ok fit := by
  constructor
  · rintro ⟨⟨value, found⟩, run⟩
    refine ⟨fun given => ?_, fun inner enters => ?_⟩
    · by_contra reserved
      obtain ⟨fault, reserved⟩ := Option.ne_none_iff_exists'.1 reserved
      rw [fitSlot_of_ne_null given, fitValue_reservedType reserved] at run
      cases run
    · obtain ⟨made, more, eq, -⟩ := enters.fit_eq_ok run
      exact ⟨_, eq⟩
  · rintro ⟨free, inside⟩
    by_cases null : l.data.get slot.key = .null
    · exact fitSlot_of_eq_null null
    · rw [fitSlot_of_ne_null null]
      cases hk : slot.kind? with
      | none => exact ⟨_, fitValue_unknownType hk (free null)⟩
      | some kind => exact exists_fitValue hk inside

/-- A level has an outcome exactly when no slot with a value has a reserved type and every level right inside
it has an outcome. -/
theorem Level.exists_fit_iff :
    (∃ fit, l.fit = .ok fit) ↔
      (∀ slot ∈ l.slots, l.data.get slot.key ≠ .null → reservedType? slot.type = none) ∧
        ∀ inner, l.Enters inner → ∃ fit, inner.fit = .ok fit := by
  rw [Level.fit, exists_fitSlots_iff]
  simp only [exists_fitSlot_iff, forall₂_and]
  refine and_congr_right fun _ => ⟨?_, ?_⟩
  · rintro h inner ⟨slot, mem, enters⟩
    exact h slot mem inner enters
  · exact fun h slot mem inner enters => h inner ⟨slot, mem, enters⟩

end

/-! ## all levels -/

namespace Level

section

variable {l inner : Level} {out made : Members} {reports : List String}

/-- An outcome of a level, taken apart at one of its slots. -/
theorem fit_split {before after : List Definition} {slot : Definition}
    (split : l.slots = before ++ slot :: after) (run : l.fit = .ok (out, reports)) :
    ∃ made first value found last,
      fitSlots l.path l.data (undeclared l.slots l.data) before = .ok (made, first) ∧
      fitSlot l.path l.data slot = .ok (value, found) ∧
      fitSlots l.path l.data (place slot.key slot.default value made) after = .ok (out, last) ∧
      reports = first ++ (found ++ last) := by
  refine fitSlots_split ?_
  rw [← split]
  exact run

/-- The step of the next lemma: one level inwards. -/
theorem Enters.fit_eq_ok (enters : l.Enters inner) (run : l.fit = .ok (out, reports)) :
    ∃ made found, inner.fit = .ok (made, found) ∧ found ⊆ reports := by
  obtain ⟨slot, mem, enters⟩ := enters
  obtain ⟨before, after, split⟩ := List.append_of_mem mem
  obtain ⟨-, first, value, found, last, -, here, -, rfl⟩ := fit_split split run
  obtain ⟨made, more, inside, sub⟩ := enters.fit_eq_ok here
  refine ⟨made, more, inside, List.Subset.trans sub ?_⟩
  exact List.subset_append_of_subset_right _ (List.subset_append_left ..)

/-- The reports of a level that fitting comes to are among those of the whole. -/
theorem Reaches.fit_eq_ok (reaches : l.Reaches inner) (run : l.fit = .ok (out, reports)) :
    ∃ made found, inner.fit = .ok (made, found) ∧ found ⊆ reports := by
  induction reaches using Relation.ReflTransGen.head_induction_on generalizing out reports with
  | refl => exact ⟨out, reports, run, List.Subset.refl _⟩
  | head enters _ ih =>
      obtain ⟨next, found, step, sub⟩ := enters.fit_eq_ok run
      obtain ⟨made, more, inside, deeper⟩ := ih step
      exact ⟨made, more, inside, List.Subset.trans deeper sub⟩

/-- Levels get smaller towards the inside. -/
theorem Enters.sizeOf_lt (enters : l.Enters inner) : sizeOf inner.slots < sizeOf l.slots := by
  obtain ⟨slot, mem, enters⟩ := enters
  have first := List.sizeOf_lt_of_mem mem
  have second : sizeOf slot.subSlots < sizeOf slot := by
    cases slot
    simp only [Definition.mk.sizeOf_spec]
    omega
  cases enters <;> exact Nat.lt_trans second first

/-- A level has an outcome exactly when fitting comes to no value of a slot with a reserved type. -/
theorem exists_fit_iff_reaches (l : Level) :
    (∃ fit, l.fit = .ok fit) ↔ ∀ inner, l.Reaches inner → ∀ slot ∈ inner.slots,
      inner.data.get slot.key ≠ .null → reservedType? slot.type = none := by
  constructor
  · rintro ⟨⟨out, reports⟩, run⟩ inner reaches
    obtain ⟨made, found, inside, -⟩ := reaches.fit_eq_ok run
    exact (exists_fit_iff.1 ⟨_, inside⟩).1
  · intro free
    refine exists_fit_iff.2 ⟨free l .refl, fun inner enters => ?_⟩
    have := enters.sizeOf_lt
    exact (exists_fit_iff_reaches inner).2 fun deeper reaches => free deeper (.head enters reaches)
termination_by sizeOf l.slots

/-- A slot whose type names no kind adds its report, and leaves its default. -/
theorem fit_unknownType {before after : List Definition} {slot : Definition}
    (split : l.slots = before ++ slot :: after) (hk : slot.kind? = none)
    (given : l.data.get slot.key ≠ .null) (run : l.fit = .ok (out, reports)) :
    (Misfit.unknownType slot.type).message (l.here slot) ∈ reports ∧ l.LeavesDefault before slot after out := by
  have mem : slot ∈ l.slots := split ▸ List.mem_append_right _ List.mem_cons_self
  have free := (exists_fit_iff.1 ⟨_, run⟩).1 slot mem given
  obtain ⟨made, first, value, found, last, start, here, rest, rfl⟩ := fit_split split run
  rw [fitSlot_of_ne_null given, fitValue_unknownType hk free] at here
  cases here
  refine ⟨by simp [Level.here], ⟨made, first, last, start, rest⟩, fun other => ?_⟩
  rw [List.map_append, List.mem_append, not_or] at other
  have new : made.get? slot.key = none := by
    rw [get?_fitSlots_of_not_mem start other.1]
    exact get?_undeclared_of_mem (List.mem_map_of_mem mem) l.data
  rw [get?_fitSlots_of_not_mem rest other.2, get?_place_self _ _ _ new]

/-- What stands for a level in the outcome is the outcome of that level. -/
theorem ShowsInside.fit_eq_ok {p q : Level × Members} (shows : ShowsInside p q)
    (run : p.1.fit = .ok (p.2, reports)) : ∃ found, q.1.fit = .ok (q.2, found) := by
  cases shows with
  | object split last hk deep given shown =>
      obtain ⟨_, _, value, found, _, -, here, rest, -⟩ := fit_split split run
      obtain ⟨made, inside, rfl⟩ := fitSlot_object hk deep given here
      rw [get?_fitSlots_of_not_mem rest last, get?_place_of_some] at shown
      cases shown
      exact ⟨_, inside⟩
  | item split last hk deep given item shown same =>
      obtain ⟨_, _, value, found, _, -, here, rest, -⟩ := fit_split split run
      obtain ⟨outs, made, more, inside, -, rfl, there⟩ := fitSlot_list hk deep given here item
      rw [get?_fitSlots_of_not_mem rest last, get?_place_of_some] at shown
      cases shown
      rw [there] at same
      cases same
      exact ⟨_, inside⟩

/-- By induction on the way inwards, what stands for a level is its outcome. -/
theorem Shows.fit_eq_ok {p q : Level × Members} (shows : Shows p q) (run : p.1.fit = .ok (p.2, reports)) :
    ∃ found, q.1.fit = .ok (q.2, found) := by
  induction shows using Relation.ReflTransGen.head_induction_on generalizing reports with
  | refl => exact ⟨reports, run⟩
  | head step _ ih =>
      obtain ⟨found, run⟩ := step.fit_eq_ok run
      exact ih run

end

end Level

/-! ## types that name no kind -/

/-- Fitting slot data fails exactly when it comes to a value of a slot with a reserved type, at any depth.
Otherwise every value of a slot whose type names no kind is reported at its place, and wherever such a slot
shows in the outcome it has left its default there and nothing else. -/
theorem coerce_unknownTypes (slots : List Definition) (data : Members) :
    ((∃ out reports, coerce slots data = .ok (out, reports)) ↔
      ∀ l : Level, (Level.start slots data).Reaches l → ∀ slot ∈ l.slots,
        l.data.get slot.key ≠ .null → reservedType? slot.type = none) ∧
    ∀ out reports, coerce slots data = .ok (out, reports) →
      (∀ l : Level, (Level.start slots data).Reaches l → ∀ slot ∈ l.slots, slot.kind? = none →
        l.data.get slot.key ≠ .null →
          (Misfit.unknownType slot.type).message (l.path ++ "." ++ slot.key) ∈ reports) ∧
      ∀ (l : Level) (made : Members), Level.Shows (.start slots data, out) (l, made) →
        ∀ before slot after, l.slots = before ++ slot :: after → slot.kind? = none →
          l.data.get slot.key ≠ .null → l.LeavesDefault before slot after made := by
  refine ⟨?_, fun out reports run => ⟨?_, ?_⟩⟩
  · rw [← Level.exists_fit_iff_reaches, Prod.exists]
    rfl
  · intro l reaches slot mem hk given
    obtain ⟨made, found, inside, sub⟩ := Level.Reaches.fit_eq_ok reaches run
    obtain ⟨before, after, split⟩ := List.append_of_mem mem
    exact sub (Level.fit_unknownType split hk given inside).1
  · intro l made shows before slot after split hk given
    obtain ⟨found, inside⟩ := Level.Shows.fit_eq_ok shows run
    exact (Level.fit_unknownType split hk given inside).2

/-- The name in a row of a price list. -/
def nameSlot : Definition := ⟨"name", "Name", "text", true, .null, [], []⟩

/-- The price in a row, of a type that there is not. -/
def priceSlot : Definition := ⟨"price", "Price", "money", false, .int 0, [], []⟩

/-- The rows of a price list. -/
def rowsSlot : Definition := ⟨"rows", "Rows", "list", true, .null, [], [nameSlot, priceSlot]⟩

/-- The note below a price list, of another type that there is not. -/
def noteSlot : Definition := ⟨"note", "Note", "memo", false, .null, [], []⟩

/-- A row with a price. -/
def cakeRow : Members := [("name", .str "Cake"), ("price", .str "3 EUR")]

/-- The same row with the default price. -/
def plainRow : Members := [("name", .str "Cake"), ("price", .int 0)]

/-- Rows, the first of which is no object, and a note. -/
def priceData : Members := [("rows", .list [.str "Tea", .obj cakeRow]), ("note", .str "daily")]

/-- Unknown types in a row and beside it: both are reported with their places, the price falls back to its
default, and the row that is no object is left out. -/
theorem coerce_unknownTypes_priceList :
    ∃ out reports, coerce [rowsSlot, noteSlot] priceData = .ok (out, reports) ∧
      "slot_data.rows[1].price 槽位类型未知: money" ∈ reports ∧
      "slot_data.note 槽位类型未知: memo" ∈ reports ∧
      Level.Shows (.start [rowsSlot, noteSlot] priceData, out)
        (⟨"slot_data.rows[1]", [nameSlot, priceSlot], cakeRow⟩, plainRow) ∧
      Level.LeavesDefault ⟨"slot_data.rows[1]", [nameSlot, priceSlot], cakeRow⟩ [nameSlot] priceSlot []
        plainRow := by
  have run : coerce [rowsSlot, noteSlot] priceData =
      .ok ([("rows", .list [.obj plainRow])],
        ["slot_data.rows[0] 需要对象", "slot_data.rows[1].price 槽位类型未知: money",
          "slot_data.note 槽位类型未知: memo"]) := rfl
  have second : [Value.str "Tea", .obj cakeRow][1]? = some (.obj cakeRow) := rfl
  have split : [rowsSlot, noteSlot] = [] ++ rowsSlot :: [noteSlot] := rfl
  have list : rowsSlot.kind? = some .list := rfl
  have deep : rowsSlot.subSlots ≠ [] := nofun
  have other : rowsSlot.key ∉ [noteSlot].map Definition.key := by decide
  have row : (Level.start [rowsSlot, noteSlot] priceData).Reaches _ :=
    .single ⟨rowsSlot, List.mem_cons_self, .item list deep rfl second⟩
  have same : [Value.obj plainRow][0]? = some (.obj plainRow) := rfl
  have shows : Level.Shows
      (.start [rowsSlot, noteSlot] priceData, [("rows", .list [.obj plainRow])]) _ :=
    .single (.item split other list deep rfl second rfl same)
  obtain ⟨reported, left⟩ := (coerce_unknownTypes [rowsSlot, noteSlot] priceData).2 _ _ run
  exact ⟨_, _, run, reported _ row priceSlot (List.mem_cons_of_mem _ List.mem_cons_self) rfl nofun,
    reported _ .refl noteSlot (List.mem_cons_of_mem _ List.mem_cons_self) rfl nofun, shows,
    left _ _ shows [nameSlot] priceSlot [] rfl rfl nofun⟩

/-- A slot with a key and a type, and nothing else. -/
def slotOfType (type : String) : Definition := ⟨"k", "K", type, false, .null, [], []⟩

/-- A value of a slot of type `value` or `mapping` breaks the fitting instead of being reported. -/
theorem coerce_reservedType_eq_error :
    coerce [slotOfType "value"] [("k", .int 1)] = .error .endless ∧
      coerce [slotOfType "mapping"] [("k", .int 1)] = .error .wrongKind :=
  ⟨rfl, rfl⟩

end Pagewright.Slot
