import Mathlib.Data.List.Forall2
import Pagewright.Proofs.Value.Members
import Pagewright.Slot.Coerce

/-!
# Pagewright.Proofs.Slot.Fitting

What fitting makes of slot data.  Beside the fitting stands a description of its outcome: what no slot
declares is as it was, and a value under a declared key is the default of its slot or has the slot's type.
The description says nothing about how values are turned into each other.  If the types are known and no
key is declared twice, fitting has an outcome, and the outcome is as described.
-/

namespace Pagewright.Slot

/-! ## declared slots -/

mutual

/-- The type of a slot is known, and so are those of the slots inside it, among which no key occurs
twice. -/
def Definition.IsKnown : Definition → Prop
  | ⟨_, _, type, _, _, _, subSlots⟩ =>
    (Kind.ofName? type).isSome ∧ (subSlots.map Definition.key).Nodup ∧ AllKnown subSlots

/-- The types of slots are known, and so are those of the slots inside them. -/
def AllKnown : List Definition → Prop
  | [] => True
  | slot :: slots => slot.IsKnown ∧ AllKnown slots

end

/-- Slots with known types and with different keys among siblings, at every depth. -/
structure IsSchema (slots : List Definition) : Prop where
  distinct : (slots.map Definition.key).Nodup
  known : AllKnown slots

/-! ## values of a type -/

/-- Whether a value is a scalar of a kind.  A choice is one of the options, if there are any. -/
def Kind.Holds (options : List String) (v : Value) : Kind → Prop
  | .text => ∃ s, v = .str s
  | .richtext => ∃ s, v = .str s
  | .image => ∃ s, v = .str s
  | .select => ∃ s, v = .str s ∧ (options ≠ [] → s ∈ options)
  | .boolean => ∃ b, v = .bool b
  | .number => (∃ i, v = .int i) ∨ ∃ x, v = .float x
  | .link => False
  | .list => False
  | .object => False

/-- Whether a value is a scalar of the type of a slot. -/
def Definition.HoldsScalar (slot : Definition) (v : Value) : Prop :=
  ∃ kind, slot.kind? = some kind ∧ kind.Holds slot.options v

/-- An object whose address, text and target are texts where it has them. -/
def IsLink (v : Value) : Prop :=
  ∃ ms, v = .obj ms ∧ ∀ key ∈ linkKeys, ∀ w, Members.get? key ms = some w → ∃ s, w = .str s

/-- What no slot declares is the same in the outcome as in the data, and the outcome has no other keys
than those of the data and of the slots. -/
structure KeepsUndeclared (slots : List Definition) (data out : Members) : Prop where
  same : ∀ key, key ∉ slots.map Definition.key → out.get? key = data.get? key
  keys : ∀ key ∈ out.keys, key ∈ data.keys ∨ key ∈ slots.map Definition.key

mutual

/-- Whether a value has the type of a slot.  What stands inside an object or a list is compared with the
value `raw` that it was made of: an item of a list stands for each object among the items there were. -/
def Definition.Takes (raw v : Value) : Definition → Prop
  | ⟨_, _, type, _, _, options, subSlots⟩ =>
    match Kind.ofName? type with
    | some .link => IsLink v
    | some .object =>
      ∃ out, v = .obj out ∧
        (subSlots ≠ [] → ∃ data, raw = .obj data ∧
          KeepsUndeclared subSlots data out ∧ TakeAll data out subSlots)
    | some .list =>
      ∃ items, v = .list items ∧
        (subSlots ≠ [] → ∃ raws, raw = .list raws ∧
          List.Forall₂
            (fun data item => ∃ out, item = .obj out ∧
              (∃ reports, coerce subSlots data = .ok (out, reports)) ∧
              KeepsUndeclared subSlots data out ∧ TakeAll data out subSlots)
            (raws.filterMap Value.members?) items)
    | some kind => kind.Holds options v
    | none => False

/-- Whether the values under the keys of slots are as they should be: each is the default of its slot or
has the slot's type, none is missing where there is a default, and a scalar that had the type is still
there. -/
def TakeAll (data out : Members) : List Definition → Prop
  | [] => True
  | slot :: slots =>
    (∀ v, out.get? slot.key = some v →
      (v = slot.default ∧ v ≠ .null) ∨ slot.Takes (data.get slot.key) v) ∧
    (out.get? slot.key = none → slot.default = .null) ∧
    (slot.HoldsScalar (data.get slot.key) → out.get? slot.key = some (data.get slot.key)) ∧
    TakeAll data out slots

end

/-- The outcome of fitting data to slots. -/
structure IsFitted (slots : List Definition) (data out : Members) : Prop where
  undeclared : KeepsUndeclared slots data out
  declared : TakeAll data out slots

/-! ## scalars -/

/-- Fitting to a text gives a text. -/
theorem coerceText_eq_ok {raw v : Value} (h : coerceText raw = .ok v) : ∃ s, v = .str s := by
  unfold coerceText at h
  split at h
  all_goals cases h
  all_goals exact ⟨_, rfl⟩

/-- What is a choice is decided by the text that the value is fitted to. -/
theorem coerceSelect_of_text (options : List String) {raw : Value} {s : String}
    (text : coerceText raw = .ok (.str s)) :
    coerceSelect options raw =
      if options.isEmpty || options.contains s then .ok (.str s) else .error (.notAnOption s) := by
  unfold coerceSelect
  rw [text]
  rfl

/-- Fitting to a choice gives one of the options, if there are any. -/
theorem coerceSelect_eq_ok {options : List String} {raw v : Value}
    (h : coerceSelect options raw = .ok v) : ∃ s, v = .str s ∧ (options ≠ [] → s ∈ options) := by
  cases text : coerceText raw with
  | error m =>
      unfold coerceSelect at h
      rw [text] at h
      cases h
  | ok value =>
      obtain ⟨s, rfl⟩ := coerceText_eq_ok text
      rw [coerceSelect_of_text options text] at h
      split at h
      · next allowed =>
        cases h
        refine ⟨s, rfl, fun some => ?_⟩
        simpa [some] using allowed
      · cases h

/-- Fitting to a truth value gives one. -/
theorem coerceBoolean_eq_ok {raw v : Value} (h : coerceBoolean raw = .ok v) : ∃ b, v = .bool b := by
  unfold coerceBoolean at h
  split at h
  · cases h
    exact ⟨_, rfl⟩
  · cases h
    exact ⟨_, rfl⟩
  · cases h
    exact ⟨_, rfl⟩
  · next s =>
    extract_lets word at h
    split at h
    · cases h
      exact ⟨true, rfl⟩
    · split at h
      · cases h
        exact ⟨false, rfl⟩
      · cases h
  · cases h

/-- Fitting to a number gives an integer or a floating-point number. -/
theorem coerceNumber_eq_ok {raw v : Value} (h : coerceNumber raw = .ok v) :
    (∃ i, v = .int i) ∨ ∃ x, v = .float x := by
  unfold coerceNumber at h
  split at h
  · cases h
    exact .inl ⟨_, rfl⟩
  · cases h
    exact .inr ⟨_, rfl⟩
  · split at h
    · split at h
      · cases h
        exact .inl ⟨_, rfl⟩
      · cases h
        exact .inr ⟨_, rfl⟩
    · cases h
  · cases h

/-- Changing the values of an object under their keys leaves the keys in their places. -/
theorem get?_map_value (f : String → Value → Value) (key : String) (ms : Members) :
    Members.get? key (ms.map fun m => (m.1, f m.1 m.2)) = (ms.get? key).map (f key) := by
  induction ms with
  | nil => rfl
  | cons m ms ih =>
      obtain ⟨k, v⟩ := m
      rw [List.map_cons, Members.get?, Members.get?]
      by_cases same : k = key
      · subst same
        rw [if_pos rfl, if_pos rfl, Option.map_some]
      · rw [if_neg same, if_neg same, ih]

/-- Fitting to a link gives an object in which address, text and target are texts. -/
theorem coerceLink_eq_ok {raw v : Value} (h : coerceLink raw = .ok v) : IsLink v := by
  unfold coerceLink at h
  split at h
  · next ms =>
    cases h
    refine ⟨_, rfl, fun key hk w hw => ?_⟩
    let written (k : String) (v : Value) : Value := if linkKeys.contains k then linkText v else v
    have same : (fun m : String × Value =>
        if linkKeys.contains m.1 then (m.1, linkText m.2) else (m.1, m.2)) =
        fun m => (m.1, written m.1 m.2) := by
      funext m
      by_cases hm : linkKeys.contains m.1
      · simp only [written, hm, if_true]
      · simp only [written, hm]
        rfl
    obtain ⟨old, -, rfl⟩ := Option.map_eq_some_iff.1 ((get?_map_value written key ms).symm.trans
      (same ▸ hw))
    simp only [written, List.contains_iff_mem.2 hk, if_true]
    unfold linkText
    split <;> exact ⟨_, rfl⟩
  · cases h

/-- A scalar of a kind is turned into itself. -/
theorem coerceText_of_holds {raw : Value} (h : ∃ s, raw = .str s) : coerceText raw = .ok raw := by
  obtain ⟨s, rfl⟩ := h
  rfl

/-- A choice that is among the options is kept. -/
theorem coerceSelect_of_holds {options : List String} {raw : Value}
    (h : Kind.select.Holds options raw) : coerceSelect options raw = .ok raw := by
  obtain ⟨s, rfl, allowed⟩ := h
  rw [coerceSelect_of_text options rfl, if_pos]
  cases options with
  | nil => rfl
  | cons o os => simpa using allowed

/-- A truth value is kept. -/
theorem coerceBoolean_of_holds {raw : Value} (h : ∃ b, raw = .bool b) :
    coerceBoolean raw = .ok raw := by
  obtain ⟨b, rfl⟩ := h
  rfl

/-- A number is kept. -/
theorem coerceNumber_of_holds {raw : Value} (h : (∃ i, raw = .int i) ∨ ∃ x, raw = .float x) :
    coerceNumber raw = .ok raw := by
  obtain ⟨i, rfl⟩ | ⟨x, rfl⟩ := h <;> rfl

/-! ## members -/

/-- A key is undeclared if it is that of no slot. -/
theorem undeclared_iff {slots : List Definition} {key : String} :
    (!slots.any fun slot => slot.key == key) = true ↔ key ∉ slots.map Definition.key := by
  simp

/-- The members that no slot declares keep their values, the others are gone. -/
theorem get?_undeclared (slots : List Definition) (key : String) (data : Members) :
    (undeclared slots data).get? key =
      if key ∈ slots.map Definition.key then none else data.get? key := by
  rw [undeclared, Members.get?_filter fun key => !slots.any fun slot => slot.key == key]
  by_cases declared : key ∈ slots.map Definition.key
  · rw [if_pos declared, if_neg (undeclared_iff.not.2 (not_not.2 declared))]
  · rw [if_neg declared, if_pos (undeclared_iff.2 declared)]

/-- A declared key is free before its slot is fitted. -/
theorem get?_undeclared_of_mem {slots : List Definition} {key : String}
    (h : key ∈ slots.map Definition.key) (data : Members) :
    (undeclared slots data).get? key = none :=
  (get?_undeclared slots key data).trans (if_pos h)

/-- An undeclared key has the value of the data. -/
theorem get?_undeclared_of_not_mem {slots : List Definition} {key : String}
    (h : key ∉ slots.map Definition.key) (data : Members) :
    (undeclared slots data).get? key = data.get? key :=
  (get?_undeclared slots key data).trans (if_neg h)

/-- No key comes from elsewhere than from the data. -/
theorem mem_keys_undeclared {slots : List Definition} {key : String} {data : Members}
    (h : key ∈ (undeclared slots data).keys) : key ∈ data.keys := by
  obtain ⟨m, hm, rfl⟩ := List.mem_map.1 h
  exact List.mem_map.2 ⟨m, (List.mem_filter.1 hm).1, rfl⟩

section

variable (key : String) (default : Value) (value : Option Value) (ms : Members)

/-- Placing the value of a slot leaves the other keys alone. -/
theorem get?_place_of_ne {other : String} (ne : other ≠ key) :
    (place key default value ms).get? other = ms.get? other := by
  unfold place
  split
  · exact Members.get?_set_of_ne ne _ ms
  · split
    · rfl
    · exact Members.get?_set_of_ne ne _ ms

/-- Under its key a slot has its value, or its default. -/
theorem get?_place_self {ms : Members} (free : ms.get? key = none) :
    (place key default value ms).get? key =
      match value with
      | some v => some v
      | none => if default.isNull then none else some default := by
  unfold place
  split
  · exact Members.get?_set_self ..
  · split
    · exact free
    · exact Members.get?_set_self ..

/-- It adds no key but that of the slot. -/
theorem mem_keys_place {key default value ms} {other : String}
    (h : other ∈ (place key default value ms).keys) : other ∈ ms.keys ∨ other = key := by
  have set (v : Value) (hv : other ∈ (ms.set key v).keys) : other ∈ ms.keys ∨ other = key := by
    rw [Members.keys_set] at hv
    split at hv
    · exact .inl hv
    · rwa [List.mem_append, List.mem_singleton] at hv
  unfold place at h
  split at h
  · exact set _ h
  · split at h
    · exact .inl h
    · exact set _ h

end

/-! ## outcomes -/

/-- Fitting succeeds with the same outcome wherever the data stand; the place shows in the reports only. -/
def HasOutcome {α : Type} (fit : String → Except Fault (α × List String)) (P : α → Prop) : Prop :=
  ∃ a, (∀ path, ∃ reports, fit path = .ok (a, reports)) ∧ P a

/-- A value that a slot gives for another one, if it gives one. -/
def Definition.Gives (slot : Definition) (raw : Value) (value : Option Value) : Prop :=
  (∀ v, value = some v → slot.Takes raw v) ∧ (slot.HoldsScalar raw → value = some raw)

/-- What a scalar of a slot is, is said by the kind that the type of the slot names. -/
theorem holdsScalar_iff {slot : Definition} {kind : Kind} (hk : slot.kind? = some kind) {v : Value} :
    slot.HoldsScalar v ↔ kind.Holds slot.options v := by
  constructor
  · rintro ⟨other, ho, h⟩
    rw [hk] at ho
    cases ho
    exact h
  · exact fun h => ⟨kind, hk, h⟩

/-- Null is no scalar of any slot. -/
theorem not_holdsScalar_of_isNull {slot : Definition} {v : Value} (null : v.isNull = true) :
    ¬ slot.HoldsScalar v := by
  rintro ⟨kind, -, h⟩
  rw [Value.isNull_iff.1 null] at h
  cases kind <;> simp [Kind.Holds] at h

/-- A slot for scalars: what its fitting gives has its type, and a scalar of the type is given back. -/
theorem hasOutcome_scalar {slot : Definition} {kind : Kind} (hk : slot.kind? = some kind)
    (raw : Value) (r : Except Misfit Value) (sound : ∀ v, r = .ok v → slot.Takes raw v)
    (kept : kind.Holds slot.options raw → r = .ok raw) :
    HasOutcome (fun path => Fit.scalar path r) (slot.Gives raw) := by
  have holds (h : slot.HoldsScalar raw) : r = .ok raw := kept ((holdsScalar_iff hk).1 h)
  cases r with
  | ok v =>
      refine ⟨some v, fun _ => ⟨_, rfl⟩, fun w hw => ?_, fun h => ?_⟩
      · cases hw
        exact sound v rfl
      · cases holds h
        rfl
  | error m =>
      refine ⟨none, fun path => ⟨_, rfl⟩, nofun, fun h => ?_⟩
      cases holds h

/-- A value that a slot refuses, and that is no scalar of its type. -/
theorem hasOutcome_refuse {slot : Definition} {raw : Value} (no : ¬ slot.HoldsScalar raw) (m : Misfit) :
    HasOutcome (fun path => Fit.refuse path m) (slot.Gives raw) :=
  ⟨none, fun _ => ⟨_, rfl⟩, nofun, fun h => absurd h no⟩

/-- The items of a list are fitted one by one, those that are no objects aside. -/
theorem hasOutcome_fitItems {f : String → Members → Except Fault (Members × List String)}
    {R : Members → Value → Prop}
    (one : ∀ data, HasOutcome (fun path => f path data) fun out => R data (.obj out)) (index : Nat)
    (items : List Value) :
    HasOutcome (fun path => fitItems f path index items)
      (List.Forall₂ R (items.filterMap Value.members?)) := by
  induction items generalizing index with
  | nil => exact ⟨[], fun _ => ⟨[], rfl⟩, .nil⟩
  | cons item items ih =>
      obtain ⟨rest, eqs, related⟩ := ih (index + 1)
      cases item with
      | obj data =>
          obtain ⟨out, here, first⟩ := one data
          refine ⟨.obj out :: rest, fun path => ?_, .cons first related⟩
          obtain ⟨reports, eq⟩ := here (path ++ "[" ++ toString index ++ "]")
          obtain ⟨more, eqs⟩ := eqs path
          exact ⟨reports ++ more, by simp only [fitItems, eq, eqs, bind, Except.bind]; rfl⟩
      | _ =>
          refine ⟨rest, fun path => ?_, related⟩
          obtain ⟨more, eqs⟩ := eqs path
          exact ⟨_, by simp only [fitItems, eqs, bind, Except.bind]; rfl⟩

/-- What fitting one slot after the other makes of `result`. -/
structure Fills (slots : List Definition) (data result out : Members) : Prop where
  others : ∀ key, key ∉ slots.map Definition.key → out.get? key = result.get? key
  keys : ∀ key ∈ out.keys, key ∈ result.keys ∨ key ∈ slots.map Definition.key
  declared : TakeAll data out slots

/-- Filling all slots into what no slot declares gives what fitting should give. -/
theorem Fills.isFitted {slots : List Definition} {data out : Members}
    (h : Fills slots data (undeclared slots data) out) : IsFitted slots data out where
  undeclared.same key hk := (h.others key hk).trans (get?_undeclared_of_not_mem hk data)
  undeclared.keys key hk := (h.keys key hk).imp_left mem_keys_undeclared
  declared := h.declared

/-- One slot is filled before the others, which leave its value as it is. -/
theorem Fills.cons {slot : Definition} {slots : List Definition} {data result out : Members}
    (free : result.get? slot.key = none) (new : slot.key ∉ slots.map Definition.key)
    {value : Option Value} (gives : slot.Gives (data.get slot.key) value)
    (h : Fills slots data (place slot.key slot.default value result) out) :
    Fills (slot :: slots) data result out := by
  -- the slots behind do not touch the key, so what stands there now stays there
  have here := (h.others slot.key new).trans (get?_place_self slot.key slot.default value free)
  refine ⟨fun key hk => ?_, fun key hk => ?_, fun v hv => ?_, fun missing => ?_, fun holds => ?_,
    h.declared⟩
  · rw [List.map_cons, List.mem_cons, not_or] at hk
    exact (h.others key hk.2).trans (get?_place_of_ne _ _ _ _ hk.1)
  · rw [List.map_cons, List.mem_cons]
    rcases h.keys key hk with placed | later
    · exact (mem_keys_place placed).imp_right .inl
    · exact .inr (.inr later)
  · rw [here] at hv
    split at hv
    · next w =>
      cases hv
      exact .inr (gives.1 _ rfl)
    · split at hv
      · cases hv
      · next full =>
        cases hv
        refine .inl ⟨rfl, fun null => full ?_⟩
        rw [null]
        rfl
  · rw [here] at missing
    split at missing
    · cases missing
    · split at missing
      · next null => exact Value.isNull_iff.1 null
      · cases missing
  · rw [here, gives.2 holds]

section

variable {slot : Definition} {raw : Value}

/-- A slot that holds no scalars gives what has its type. -/
theorem gives_of_takes (none : ¬ slot.HoldsScalar raw) {v : Value} (h : slot.Takes raw v) :
    slot.Gives raw (some v) := by
  refine ⟨fun w hw => ?_, fun holds => absurd holds none⟩
  cases hw
  exact h

/-- Data are fitted to some slots. -/
abbrev FitsTo (slots : List Definition) (data : Members) : Prop :=
  HasOutcome (fun path => fitSlots path data (undeclared slots data) slots)
    (Fills slots data (undeclared slots data))

/-- A slot for objects fits what is inside an object to its own slots, and refuses other values. -/
theorem hasOutcome_object (hk : slot.kind? = some .object)
    (fitted : ∀ data, FitsTo slot.subSlots data) :
    HasOutcome (fun path => fitValue path raw slot) (slot.Gives raw) := by
  obtain ⟨key, label, type, required, default, options, subSlots⟩ := slot
  have none : ¬ _ := (holdsScalar_iff hk (v := raw)).not.2 id
  simp only [Definition.kind?] at hk
  simp only [fitValue, hk]
  cases raw with
  | obj data =>
      by_cases leaf : subSlots = []
      · subst leaf
        refine ⟨some (.obj data), fun _ => ⟨[], rfl⟩, gives_of_takes none ?_⟩
        simp only [Definition.Takes, hk]
        exact ⟨data, rfl, fun h => absurd rfl h⟩
      · obtain ⟨out, eqs, fills⟩ := fitted data
        have whole := fills.isFitted
        refine ⟨some (.obj out), fun path => ?_, gives_of_takes none ?_⟩
        · obtain ⟨reports, eq⟩ := eqs path
          refine ⟨reports, ?_⟩
          simp only [List.isEmpty_iff, leaf, if_false, eq]
          rfl
        · simp only [Definition.Takes, hk]
          exact ⟨out, rfl, fun _ => ⟨data, rfl, whole.undeclared, whole.declared⟩⟩
  | _ => exact hasOutcome_refuse none .needsObject

/-- A slot for lists does so with each object of a list. -/
theorem hasOutcome_list (hk : slot.kind? = some .list) (fitted : ∀ data, FitsTo slot.subSlots data) :
    HasOutcome (fun path => fitValue path raw slot) (slot.Gives raw) := by
  obtain ⟨key, label, type, required, default, options, subSlots⟩ := slot
  have none : ¬ _ := (holdsScalar_iff hk (v := raw)).not.2 id
  simp only [Definition.kind?] at hk
  simp only [fitValue, hk]
  cases raw with
  | list raws =>
      by_cases leaf : subSlots = []
      · subst leaf
        refine ⟨some (.list raws), fun _ => ⟨[], rfl⟩, gives_of_takes none ?_⟩
        simp only [Definition.Takes, hk]
        exact ⟨raws, rfl, fun h => absurd rfl h⟩
      · obtain ⟨items, eqs, related⟩ := hasOutcome_fitItems
          (f := fun here ms => fitSlots here ms (undeclared subSlots ms) subSlots)
          (R := fun data item => ∃ out, item = .obj out ∧
            (∃ reports, coerce subSlots data = .ok (out, reports)) ∧
            KeepsUndeclared subSlots data out ∧ TakeAll data out subSlots)
          (fun data => by
            obtain ⟨out, eqs, fills⟩ := fitted data
            have whole := fills.isFitted
            exact ⟨out, eqs, out, rfl, eqs "slot_data", whole.undeclared, whole.declared⟩)
          0 raws
        refine ⟨some (.list items), fun path => ?_, gives_of_takes none ?_⟩
        · obtain ⟨reports, eq⟩ := eqs path
          refine ⟨reports, ?_⟩
          simp only [List.isEmpty_iff, leaf, if_false, eq]
          rfl
        · simp only [Definition.Takes, hk]
          exact ⟨items, rfl, fun _ => ⟨raws, rfl, related⟩⟩
  | _ => exact hasOutcome_refuse none .needsList

end

mutual

/-- Every slot of a known type has an outcome; the induction is on the slots inside it. -/
theorem hasOutcome_fitValue (raw : Value) {slot : Definition} (known : slot.IsKnown) :
    HasOutcome (fun path => fitValue path raw slot) (slot.Gives raw) := by
  match slot with
  | ⟨key, label, type, required, default, options, subSlots⟩ =>
      obtain ⟨named, distinct, deep⟩ := known
      obtain ⟨kind, hk⟩ := Option.isSome_iff_exists.1 named
      have fitted (data : Members) : FitsTo subSlots data := hasOutcome_fitSlots data
        (undeclared subSlots data) distinct deep fun key hk => get?_undeclared_of_mem hk data
      have slotKind :
          Definition.kind? ⟨key, label, type, required, default, options, subSlots⟩ = some kind := hk
      have scalar (r : Except Misfit Value) := hasOutcome_scalar slotKind raw r
      simp only [Definition.Takes, hk] at scalar
      cases kind
      case object => exact hasOutcome_object slotKind fitted
      case list => exact hasOutcome_list slotKind fitted
      all_goals simp only [fitValue, hk]
      case select => exact scalar _ (fun v => coerceSelect_eq_ok) coerceSelect_of_holds
      case boolean => exact scalar _ (fun v => coerceBoolean_eq_ok) coerceBoolean_of_holds
      case number => exact scalar _ (fun v => coerceNumber_eq_ok) coerceNumber_of_holds
      case link => exact scalar _ (fun v => coerceLink_eq_ok) False.elim
      all_goals exact scalar _ (fun v => coerceText_eq_ok) coerceText_of_holds
termination_by sizeOf slot

/-- Slots are filled one by one, and each finds its key free. -/
theorem hasOutcome_fitSlots (data result : Members) {slots : List Definition}
    (distinct : (slots.map Definition.key).Nodup) (known : AllKnown slots)
    (free : ∀ key ∈ slots.map Definition.key, result.get? key = none) :
    HasOutcome (fun path => fitSlots path data result slots) (Fills slots data result) := by
  match slots with
  | [] => exact ⟨result, fun _ => ⟨[], rfl⟩, fun _ _ => rfl, fun _ => .inl, trivial⟩
  | slot :: slots =>
      obtain ⟨new, distinct⟩ := List.nodup_cons.1 distinct
      obtain ⟨here, known⟩ := known
      have first : result.get? slot.key = none := free slot.key (List.mem_cons_self ..)
      -- whatever is placed for this slot, the keys of the others stay free
      have rest (value : Option Value) := hasOutcome_fitSlots data
        (place slot.key slot.default value result) distinct known fun key hk => by
          have ne : key ≠ slot.key := fun same => new (same ▸ hk)
          rw [get?_place_of_ne _ _ _ _ ne]
          exact free key (List.mem_cons_of_mem _ hk)
      by_cases null : (data.get slot.key).isNull = true
      · obtain ⟨out, eqs, fills⟩ := rest none
        have gives : slot.Gives (data.get slot.key) none :=
          ⟨nofun, fun h => absurd h (not_holdsScalar_of_isNull null)⟩
        refine ⟨out, fun path => ?_, fills.cons first new gives⟩
        obtain ⟨more, eq⟩ := eqs path
        simp only [fitSlots, null, if_true, eq]
        exact ⟨_, rfl⟩
      · obtain ⟨value, fits, gives⟩ := hasOutcome_fitValue (data.get slot.key) here
        obtain ⟨out, eqs, fills⟩ := rest value
        refine ⟨out, fun path => ?_, fills.cons first new gives⟩
        obtain ⟨reports, fit⟩ := fits (path ++ "." ++ slot.key)
        obtain ⟨more, eq⟩ := eqs path
        refine ⟨reports ++ more, ?_⟩
        simp only [fitSlots, null, fit, bind, Except.bind, eq]
        rfl
termination_by sizeOf slots

end

/-- Slot data can always be fitted to slots with known types and different keys, and what comes out keeps
the undeclared data and has values of the declared types. -/
theorem coerce_isFitted {slots : List Definition} (schema : IsSchema slots) (data : Members) :
    ∃ out reports, coerce slots data = .ok (out, reports) ∧ IsFitted slots data out := by
  obtain ⟨out, eqs, fills⟩ := hasOutcome_fitSlots data (undeclared slots data) schema.distinct
    schema.known fun key hk => get?_undeclared_of_mem hk data
  obtain ⟨reports, eq⟩ := eqs "slot_data"
  exact ⟨out, reports, eq, fills.isFitted⟩

/-- The slots of a menu: a title, a choice with a default, and entries with a label and a link. -/
def menuSlots : List Definition :=
  [ ⟨"title", "Title", "text", true, .null, [], []⟩,
    ⟨"align", "Align", "select", false, .str "left", ["left", "right"], []⟩,
    ⟨"entries", "Entries", "list", false, .null, [],
      [ ⟨"label", "Label", "text", true, .null, [], []⟩,
        ⟨"link", "Link", "link", false, .null, [], []⟩ ]⟩ ]

/-- The data of a menu: a number for a title, a choice that is none, an entry that is no object, and a
member that no slot declares. -/
def menuData : Members :=
  [ ("title", .int 5), ("align", .str "top"),
    ("entries", .list
      [ .obj [("label", .str "Home"), ("link", .obj [("url", .null)])], .str "About",
        .obj [("label", .bool true)] ]),
    ("posts", .list []) ]

/-- The slots of the menu are a schema, so its data are fitted. -/
theorem coerce_isFitted_menu :
    IsSchema menuSlots ∧
      ∃ out reports, coerce menuSlots menuData = .ok (out, reports) ∧
        IsFitted menuSlots menuData out := by
  have schema : IsSchema menuSlots := by
    refine ⟨by decide, ?_⟩
    simp only [menuSlots, AllKnown, Definition.IsKnown]
    decide
  exact ⟨schema, coerce_isFitted schema menuData⟩

end Pagewright.Slot
