import Pagewright.Proofs.Fault.Yields
import Pagewright.Proofs.Slot.Fitting

/-!
# Pagewright.Proofs.Slot.Settling

Fitting slot data twice.  Beside the fitting stands a grammar of the data that it leaves as they are: first
what no slot declares, and then the values of the slots in their order, each one that its slot keeps.  What
comes out of the fitting is settled in this sense, if the defaults of the slots are, and settled data are
fitted to themselves.  The second fitting then has nothing to report but the required values that are still
missing.
-/

namespace Pagewright.Slot

/-! ## settled data -/

/-- An object whose addresses, texts and targets are texts. -/
def IsWrittenLink (v : Value) : Prop :=
  ∃ ms : Members, v = .obj ms ∧ ∀ m ∈ ms, m.1 ∈ linkKeys → ∃ s, m.2 = .str s

/-- Members that no slot declares. -/
def AreFree (slots : List Definition) (ms : Members) : Prop := ∀ m ∈ ms, m.1 ∉ slots.map Definition.key

/-- Members that no slot declares, and behind them the values of the slots. -/
def IsSplit (slots : List Definition) (values : Members → Prop) (ms : Members) : Prop :=
  ∃ free added : Members, ms = free ++ added ∧ AreFree slots free ∧ values added

mutual

/-- Whether a value is one that fitting to a slot leaves as it is. -/
def Definition.Keeps : Definition → Value → Prop
  | ⟨_, _, type, _, _, options, subSlots⟩, v =>
    match Kind.ofName? type with
    | some .link => IsWrittenLink v
    | some .object => ∃ ms, v = .obj ms ∧ (subSlots ≠ [] → IsSplit subSlots (AreKept subSlots) ms)
    | some .list =>
      ∃ items, v = .list items ∧
        (subSlots ≠ [] → ∀ item ∈ items, ∃ ms, item = .obj ms ∧ IsSplit subSlots (AreKept subSlots) ms)
    | some kind => kind.Holds options v
    | none => False

/-- Whether members are the values of slots, in the order of the slots and each kept by its slot.  A slot
without a default may have no value. -/
def AreKept : List Definition → Members → Prop
  | [], ms => ms = []
  | slot :: slots, ms =>
    slot.default = .null ∧ AreKept slots ms ∨
      ∃ v rest, ms = (slot.key, v) :: rest ∧ slot.Keeps v ∧ AreKept slots rest

end

/-- Whether slot data are such as fitting leaves them. -/
def IsSettled (slots : List Definition) (data : Members) : Prop := IsSplit slots (AreKept slots) data

/-! ## missing values -/

/-- The places in the objects of a list from an index on. -/
def placesInItems (places : String → Members → List String) (path : String) :
    (index : Nat) → List Value → List String
  | _, [] => []
  | index, .obj ms :: items =>
    places (path ++ "[" ++ toString index ++ "]") ms ++ placesInItems places path (index + 1) items
  | index, _ :: items => placesInItems places path (index + 1) items

mutual

/-- The places in the value of a slot where a required value is missing. -/
def Definition.missingPlaces (path : String) (v : Value) : Definition → List String
  | ⟨_, _, type, _, _, _, subSlots⟩ =>
    match Kind.ofName? type, v with
    | some .object, .obj ms => missingPlaces path ms subSlots
    | some .list, .list items =>
      placesInItems (fun here ms => missingPlaces here ms subSlots) path 0 items
    | _, _ => []

/-- The places in slot data where a required value is missing, at every depth. -/
def missingPlaces (path : String) (data : Members) : List Definition → List String
  | [] => []
  | slot :: slots =>
    let here := path ++ "." ++ slot.key
    let v := data.get slot.key
    (if v.isNull then if slot.default.isNull && slot.required then [here] else []
      else slot.missingPlaces here v) ++ missingPlaces path data slots

end

/-! ## one slot after the other -/

/-- Fits the value of one slot, if it has one. -/
def fitSlot (path : String) (data : Members) (slot : Definition) : Fit :=
  let here := path ++ "." ++ slot.key
  let raw := data.get slot.key
  if raw.isNull then
    .ok (none, if slot.default.isNull && slot.required then [Misfit.missing.message here] else [])
  else fitValue here raw slot

/-- Slots are fitted one after the other, with their reports in order. -/
theorem fitSlots_cons (path : String) (data result : Members) (slot : Definition)
    (slots : List Definition) :
    fitSlots path data result (slot :: slots) = (do
      let (value, reports) ← fitSlot path data slot
      let (ms, more) ← fitSlots path data (place slot.key slot.default value result) slots
      return (ms, reports ++ more)) := by
  rw [fitSlots, fitSlot]
  dsimp only
  split <;> rfl

/-! ## what fitting makes of data -/

/-- What a fitting gives, the reports aside. -/
abbrev YieldsFit {α : Type} (P : α → Prop) (fit : Except Fault (α × List String)) : Prop :=
  Yields (fun fitted => P fitted.1) fit

/-- A value that a slot gives is one that it keeps. -/
abbrev Definition.GivesKept (slot : Definition) (fit : Fit) : Prop :=
  YieldsFit (fun value => ∀ v, value = some v → slot.Keeps v) fit

/-- Fitting to a link makes texts of all its addresses, texts and targets, repeated keys included. -/
theorem isWrittenLink_of_coerceLink {raw v : Value} (h : coerceLink raw = .ok v) : IsWrittenLink v := by
  unfold coerceLink at h
  split at h
  · next ms =>
    cases h
    refine ⟨_, rfl, fun m mem link => ?_⟩
    obtain ⟨⟨k, w⟩, -, rfl⟩ := List.mem_map.1 mem
    by_cases own : linkKeys.contains k = true
    · simp only [own, if_true]
      unfold linkText
      split <;> exact ⟨_, rfl⟩
    · simp only [own] at link
      exact absurd (List.contains_iff_mem.2 link) own
  · cases h

/-- A slot for scalars gives what it keeps, if what it makes of a value is kept. -/
theorem givesKept_scalar (slot : Definition) (path : String) {r : Except Misfit Value}
    (h : ∀ v, r = .ok v → slot.Keeps v) : slot.GivesKept (Fit.scalar path r) := by
  cases r with
  | ok w =>
      refine yields_ok fun v eq => ?_
      cases eq
      exact h w rfl
  | error m => exact yields_ok nofun

/-- Fitting the items of a list gives objects with the property that fitting one of them gives. -/
theorem yieldsFit_fitItems {f : String → Members → Except Fault (Members × List String)} {P : Members → Prop}
    (one : ∀ path data, YieldsFit P (f path data)) (path : String) (index : Nat) (items : List Value) :
    YieldsFit (fun out => ∀ item ∈ out, ∃ ms, item = .obj ms ∧ P ms) (fitItems f path index items) := by
  induction items generalizing index with
  | nil => exact yields_ok (List.forall_mem_nil _)
  | cons item items ih =>
      cases item with
      | obj data =>
          refine Yields.bind fun fit first => Yields.bind fun fits rest => yields_ok ?_
          exact List.forall_mem_cons.2 ⟨⟨fit.1, rfl, one _ _ fit first⟩, ih _ fits rest⟩
      | _ => exact Yields.bind fun fits rest => yields_ok (ih _ fits rest)

/-- What is left of the data when the declared keys are taken out is free of them. -/
theorem areFree_undeclared (slots : List Definition) (data : Members) : AreFree slots (undeclared slots data) :=
  fun _ mem => undeclared_iff.1 (List.mem_filter.1 mem).2

section

variable {slot : Definition} {slots : List Definition} {ms : Members}

/-- Members that are free of some slots are free of the later ones. -/
theorem AreFree.tail (h : AreFree (slot :: slots) ms) : AreFree slots ms :=
  fun m mem later => h m mem (List.mem_cons_of_mem _ later)

/-- The key of the first slot is not among free members. -/
theorem AreFree.not_mem_keys (h : AreFree (slot :: slots) ms) : slot.key ∉ ms.keys := by
  intro given
  obtain ⟨m, mem, eq⟩ := List.mem_map.1 given
  exact h m mem (eq ▸ List.mem_cons_self)

/-- Slots with other keys do not declare the value of a slot. -/
theorem AreFree.concat (h : AreFree slots ms) (new : slot.key ∉ slots.map Definition.key) (v : Value) :
    AreFree slots (ms ++ [(slot.key, v)]) :=
  List.forall_mem_append.2 ⟨h, List.forall_mem_singleton.2 new⟩

/-- Behind free members the value of a slot is found among those that were added. -/
theorem AreFree.get?_append (h : AreFree slots ms) (added : Members) {key : String}
    (declared : key ∈ slots.map Definition.key) : (ms ++ added : Members).get? key = added.get? key := by
  have none : ms.get? key = none := by
    rw [Members.get?_eq_none_iff]
    intro given
    obtain ⟨m, mem, rfl⟩ := List.mem_map.1 given
    exact h m mem declared
  rw [Members.get?_append, none, Option.none_or]

end

mutual

/-- Whether the default of a slot, if it has one, is fitted to itself without a report, and so are the
defaults of the slots inside it. -/
def Definition.HoldsDefaults : Definition → Prop
  | ⟨key, label, type, required, default, options, subSlots⟩ =>
    (default ≠ .null → ∃ path, fitValue path default
      ⟨key, label, type, required, default, options, subSlots⟩ = .ok (some default, [])) ∧
    AllHoldDefaults subSlots

/-- Whether the defaults of slots are fitted to themselves, at every depth. -/
def AllHoldDefaults : List Definition → Prop
  | [] => True
  | slot :: slots => slot.HoldsDefaults ∧ AllHoldDefaults slots

end

section

variable {slot : Definition} (gives : ∀ path raw, slot.GivesKept (fitValue path raw slot))

include gives

/-- A default that is fitted to itself is kept, because fitting gives only what is kept. -/
theorem Definition.HoldsDefaults.keeps (h : slot.HoldsDefaults) (given : slot.default ≠ .null) :
    slot.Keeps slot.default := by
  have fitted : ∃ path, fitValue path slot.default slot = .ok (some slot.default, []) := by
    cases slot
    exact h.1 given
  obtain ⟨path, eq⟩ := fitted
  exact gives path slot.default _ eq _ rfl

/-- The value of one slot is kept if there is one. -/
theorem givesKept_fitSlot (path : String) (data : Members) : slot.GivesKept (fitSlot path data slot) := by
  unfold fitSlot
  dsimp only
  split
  · exact yields_ok nofun
  · exact gives _ _

end

/-- A value or a default that is put in its place stands last. -/
theorem place_eq {slot : Definition} {value : Option Value} {ms : Members} (new : slot.key ∉ ms.keys)
    (kept : ∀ v, value = some v → slot.Keeps v) (default : slot.default ≠ .null → slot.Keeps slot.default) :
    slot.default = .null ∧ place slot.key slot.default value ms = ms ∨
      ∃ v, slot.Keeps v ∧ place slot.key slot.default value ms = ms ++ [(slot.key, v)] := by
  unfold place
  cases value with
  | some v => exact .inr ⟨v, kept v rfl, Members.set_of_not_mem new v⟩
  | none =>
      by_cases null : slot.default.isNull = true
      · exact .inl ⟨Value.isNull_iff.1 null, if_pos null⟩
      · have some : slot.default ≠ .null := fun eq => null (by rw [eq]; rfl)
        exact .inr ⟨slot.default, default some, (if_neg null).trans (Members.set_of_not_mem new _)⟩

section

variable {slot : Definition} (inside : ∀ here data, YieldsFit (IsSettled slot.subSlots)
  (fitSlots here data (undeclared slot.subSlots data) slot.subSlots))

include inside

/-- A slot for objects gives an object whose members its own slots keep. -/
theorem givesKept_object (hk : slot.kind? = some .object) (path : String) (raw : Value) :
    slot.GivesKept (fitValue path raw slot) := by
  obtain ⟨key, label, type, required, default, options, subSlots⟩ := slot
  simp only [Definition.kind?] at hk
  simp only [Definition.GivesKept, Definition.Keeps, fitValue, hk]
  cases raw with
  | obj data =>
      by_cases leaf : subSlots = []
      · simp only [leaf, List.isEmpty_nil, if_true]
        refine yields_ok fun v eq => ?_
        cases eq
        exact ⟨data, rfl, fun some => absurd rfl some⟩
      · simp only [List.isEmpty_iff, leaf, if_false]
        refine Yields.bind fun fit eq => yields_ok fun v value => ?_
        cases value
        exact ⟨fit.1, rfl, fun _ => inside path data fit eq⟩
  | _ => exact yields_ok nofun

/-- A slot for lists gives objects whose members its own slots keep. -/
theorem givesKept_list (hk : slot.kind? = some .list) (path : String) (raw : Value) :
    slot.GivesKept (fitValue path raw slot) := by
  obtain ⟨key, label, type, required, default, options, subSlots⟩ := slot
  simp only [Definition.kind?] at hk
  simp only [Definition.GivesKept, Definition.Keeps, fitValue, hk]
  cases raw with
  | list items =>
      by_cases leaf : subSlots = []
      · simp only [leaf, List.isEmpty_nil, if_true]
        refine yields_ok fun v eq => ?_
        cases eq
        exact ⟨items, rfl, fun some => absurd rfl some⟩
      · simp only [List.isEmpty_iff, leaf, if_false]
        refine Yields.bind fun fit eq => yields_ok fun v value => ?_
        cases value
        exact ⟨fit.1, rfl, fun _ => yieldsFit_fitItems inside path 0 items fit eq⟩
  | _ => exact yields_ok nofun

end

mutual

/-- What a slot gives is what it keeps. -/
theorem givesKept_fitValue {slot : Definition} (known : slot.IsKnown) (defaults : slot.HoldsDefaults)
    (path : String) (raw : Value) : slot.GivesKept (fitValue path raw slot) := by
  match slot with
  | ⟨key, label, type, required, default, options, subSlots⟩ =>
      obtain ⟨named, distinct, deep⟩ := known
      obtain ⟨kind, hk⟩ := Option.isSome_iff_exists.1 named
      have inside (here : String) (data : Members) :
          YieldsFit (IsSettled subSlots) (fitSlots here data (undeclared subSlots data) subSlots) :=
        fun fit eq => by
          have free := areFree_undeclared subSlots data
          obtain ⟨added, whole, kept⟩ := yieldsFit_fitSlots distinct deep defaults.2 here data free fit eq
          exact ⟨_, added, whole, free, kept⟩
      have slotKind :
          Definition.kind? ⟨key, label, type, required, default, options, subSlots⟩ = some kind := hk
      have scalar (r : Except Misfit Value) :=
        givesKept_scalar ⟨key, label, type, required, default, options, subSlots⟩ path (r := r)
      simp only [Definition.Keeps, hk] at scalar
      cases kind
      case object => exact givesKept_object inside slotKind path raw
      case list => exact givesKept_list inside slotKind path raw
      all_goals simp only [fitValue, hk]
      case select => exact scalar _ fun v => coerceSelect_eq_ok
      case boolean => exact scalar _ fun v => coerceBoolean_eq_ok
      case number => exact scalar _ fun v => coerceNumber_eq_ok
      case link => exact scalar _ fun v => isWrittenLink_of_coerceLink
      all_goals exact scalar _ fun v => coerceText_eq_ok
termination_by sizeOf slot

/-- Fitting slots puts values behind the others that the slots keep. -/
theorem yieldsFit_fitSlots {slots : List Definition} (distinct : (slots.map Definition.key).Nodup)
    (known : AllKnown slots) (defaults : AllHoldDefaults slots) (path : String) (data : Members)
    {result : Members} (free : AreFree slots result) :
    YieldsFit (fun out => ∃ added, out = result ++ added ∧ AreKept slots added)
      (fitSlots path data result slots) := by
  match slots with
  | [] => exact yields_ok ⟨[], (List.append_nil _).symm, rfl⟩
  | slot :: slots =>
      obtain ⟨new, distinct⟩ := List.nodup_cons.1 distinct
      have gives (here : String) (raw : Value) := givesKept_fitValue known.1 defaults.1 here raw
      rw [fitSlots_cons]
      refine Yields.bind fun fit eq => Yields.bind fun fits eqs => yields_ok ?_
      rcases place_eq free.not_mem_keys (givesKept_fitSlot gives path data fit eq) (defaults.1.keeps gives) with
        ⟨null, same⟩ | ⟨v, keeps, last⟩
      · rw [same] at eqs
        obtain ⟨added, whole, rest⟩ :=
          yieldsFit_fitSlots distinct known.2 defaults.2 path data free.tail fits eqs
        exact ⟨added, whole, .inl ⟨null, rest⟩⟩
      · rw [last] at eqs
        obtain ⟨added, whole, rest⟩ :=
          yieldsFit_fitSlots distinct known.2 defaults.2 path data (free.tail.concat new v) fits eqs
        exact ⟨(slot.key, v) :: added, by rw [whole, List.append_assoc]; rfl,
          .inr ⟨v, added, rfl, keeps, rest⟩⟩
termination_by sizeOf slots

end

/-! ## fitting settled data -/

/-- The reports about required values that are missing at some places. -/
def missingReports (places : List String) : List String :=
  places.map fun place => Misfit.missing.message place

/-- Reports about more places come behind the others. -/
theorem missingReports_append (places more : List String) :
    missingReports (places ++ more) = missingReports places ++ missingReports more := List.map_append

/-- Only null is null. -/
theorem isNull_eq_false {v : Value} (h : v ≠ .null) : v.isNull = false := by
  cases v with
  | null => exact absurd rfl h
  | _ => rfl

/-- No slot keeps null, which stands for a missing value. -/
theorem Definition.Keeps.ne_null {slot : Definition} {v : Value} (h : slot.Keeps v) : v ≠ .null := by
  rintro rfl
  obtain ⟨key, label, type, required, default, options, subSlots⟩ := slot
  simp only [Keeps] at h
  split at h
  · obtain ⟨_, eq, -⟩ := h
    cases eq
  · obtain ⟨_, eq, -⟩ := h
    cases eq
  · obtain ⟨_, eq, -⟩ := h
    cases eq
  · next kind _ _ _ _ => cases kind <;> simp [Kind.Holds] at h
  · exact h

/-- A link that is written in texts is kept. -/
theorem coerceLink_of_isWrittenLink {v : Value} (h : IsWrittenLink v) : coerceLink v = .ok v := by
  obtain ⟨ms, rfl, written⟩ := h
  have same : ∀ m ∈ ms, (if linkKeys.contains m.1 then (m.1, linkText m.2) else (m.1, m.2)) = m := by
    intro m mem
    split
    · next own =>
      obtain ⟨s, eq⟩ := written m mem (List.contains_iff_mem.1 own)
      obtain ⟨k, w⟩ := m
      obtain rfl : w = .str s := eq
      rfl
    · rfl
  rw [coerceLink, List.map_congr_left same, List.map_id']

/-- Kept values stand under the keys of slots only. -/
theorem mem_keys_of_areKept {slots : List Definition} {ms : Members} (h : AreKept slots ms) :
    ∀ m ∈ ms, m.1 ∈ slots.map Definition.key := by
  induction slots generalizing ms with
  | nil =>
      obtain rfl : ms = [] := h
      exact List.forall_mem_nil _
  | cons slot slots ih =>
      rcases h with ⟨-, rest⟩ | ⟨v, rest, rfl, -, kept⟩
      · exact fun m mem => List.mem_cons_of_mem _ (ih rest m mem)
      · exact List.forall_mem_cons.2
          ⟨List.mem_cons_self, fun m mem => List.mem_cons_of_mem _ (ih kept m mem)⟩

/-- Taking the declared members out of settled data gives back those in front. -/
theorem undeclared_append {slots : List Definition} {free added : Members}
    (out : AreFree slots free) (kept : AreKept slots added) :
    undeclared slots (free ++ added) = free := by
  rw [undeclared, List.filter_append, List.filter_eq_self.2 fun m mem => undeclared_iff.2 (out m mem),
    List.filter_eq_nil_iff.2 fun m mem => undeclared_iff.not.2 (not_not.2 (mem_keys_of_areKept kept m mem)),
    List.append_nil]

/-- The items of a list are kept if each of them is, and the reports name the places in each of them. -/
theorem fitItems_eq_self {f : String → Members → Except Fault (Members × List String)}
    {places : String → Members → List String} {P : Members → Prop}
    (one : ∀ path data, P data → f path data = .ok (data, missingReports (places path data)))
    (path : String) (index : Nat) {items : List Value} (h : ∀ item ∈ items, ∃ ms, item = .obj ms ∧ P ms) :
    fitItems f path index items = .ok (items, missingReports (placesInItems places path index items)) := by
  induction items generalizing index with
  | nil => rfl
  | cons item items ih =>
      obtain ⟨⟨ms, rfl, settled⟩, rest⟩ := List.forall_mem_cons.1 h
      rw [fitItems, one _ ms settled, placesInItems, missingReports_append]
      simp only [bind, Except.bind, ih (index + 1) rest]
      rfl

/-- Where a list has no slots for its items, nothing is missing in them. -/
theorem placesInItems_eq_nil (path : String) (index : Nat) (items : List Value) :
    placesInItems (fun _ _ => []) path index items = [] := by
  induction items generalizing index with
  | nil => rfl
  | cons item items ih => cases item <;> exact ih (index + 1)

section

variable {path : String} {data : Members} {slot : Definition}

/-- A slot with a value fits that value. -/
theorem fitSlot_of_get? {v : Value} (given : data.get? slot.key = some v) (some : v ≠ .null) :
    fitSlot path data slot = fitValue (path ++ "." ++ slot.key) v slot := by
  rw [fitSlot, Members.get_of_get? given]
  simp only [isNull_eq_false some]
  rfl

/-- Of a slot with a value only what is inside the value can be missing. -/
theorem missingPlaces_of_get? {v : Value} (given : data.get? slot.key = some v) (some : v ≠ .null)
    (slots : List Definition) :
    missingPlaces path data (slot :: slots) =
      slot.missingPlaces (path ++ "." ++ slot.key) v ++ missingPlaces path data slots := by
  rw [missingPlaces, Members.get_of_get? given]
  simp only [isNull_eq_false some]
  rfl

/-- A slot without a value and without a default is reported if it is required. -/
theorem fitSlot_of_get?_eq_none (none : data.get? slot.key = .none) (null : slot.default = .null) :
    fitSlot path data slot =
      .ok (.none, missingReports (if slot.required then [path ++ "." ++ slot.key] else [])) := by
  rw [fitSlot, Members.get_of_get?_eq_none none, null]
  cases slot.required <;> rfl

/-- It is itself what is missing. -/
theorem missingPlaces_of_get?_eq_none (none : data.get? slot.key = .none) (null : slot.default = .null)
    (slots : List Definition) :
    missingPlaces path data (slot :: slots) =
      (if slot.required then [path ++ "." ++ slot.key] else []) ++ missingPlaces path data slots := by
  rw [missingPlaces, Members.get_of_get?_eq_none none, null]
  cases slot.required <;> rfl

end

section

variable {slot : Definition} (inside : ∀ path data, IsSettled slot.subSlots data →
  fitSlots path data (undeclared slot.subSlots data) slot.subSlots =
    .ok (data, missingReports (missingPlaces path data slot.subSlots)))

include inside

/-- A kept object is fitted to itself, with reports about what is missing inside. -/
theorem fitValue_object_eq_self (hk : slot.kind? = some .object) (path : String) {v : Value}
    (keeps : slot.Keeps v) :
    fitValue path v slot = .ok (some v, missingReports (slot.missingPlaces path v)) := by
  obtain ⟨key, label, type, required, default, options, subSlots⟩ := slot
  simp only [Definition.kind?] at hk
  simp only [Definition.Keeps, hk] at keeps
  obtain ⟨ms, rfl, settled⟩ := keeps
  simp only [fitValue, Definition.missingPlaces, hk]
  by_cases leaf : subSlots = []
  · subst leaf
    rfl
  · simp only [List.isEmpty_iff, leaf, if_false, inside path ms (settled leaf)]
    rfl

/-- So is a kept list of objects. -/
theorem fitValue_list_eq_self (hk : slot.kind? = some .list) (path : String) {v : Value}
    (keeps : slot.Keeps v) :
    fitValue path v slot = .ok (some v, missingReports (slot.missingPlaces path v)) := by
  obtain ⟨key, label, type, required, default, options, subSlots⟩ := slot
  simp only [Definition.kind?] at hk
  simp only [Definition.Keeps, hk] at keeps
  obtain ⟨items, rfl, settled⟩ := keeps
  simp only [fitValue, Definition.missingPlaces, hk]
  by_cases leaf : subSlots = []
  · subst leaf
    simp only [missingPlaces, placesInItems_eq_nil]
    rfl
  · simp only [List.isEmpty_iff, leaf, if_false, fitItems_eq_self inside path 0 (settled leaf)]
    rfl

end

mutual

/-- A slot gives a value that it keeps as it is. -/
theorem fitValue_eq_self {slot : Definition} (known : slot.IsKnown) (path : String) {v : Value}
    (keeps : slot.Keeps v) :
    fitValue path v slot = .ok (some v, missingReports (slot.missingPlaces path v)) := by
  match slot with
  | ⟨key, label, type, required, default, options, subSlots⟩ =>
      obtain ⟨named, distinct, deep⟩ := known
      obtain ⟨kind, hk⟩ := Option.isSome_iff_exists.1 named
      have inside (here : String) (data : Members) (settled : IsSettled subSlots data) :
          fitSlots here data (undeclared subSlots data) subSlots =
            .ok (data, missingReports (missingPlaces here data subSlots)) := by
        obtain ⟨free, added, rfl, out, kept⟩ := settled
        rw [undeclared_append out kept]
        exact fitSlots_eq_self distinct deep here kept out fun key => out.get?_append added
      have slotKind :
          Definition.kind? ⟨key, label, type, required, default, options, subSlots⟩ = some kind := hk
      have scalar {r : Except Misfit Value} (eq : r = .ok v) :
          Fit.scalar path r = .ok (some v, missingReports []) := by rw [eq]; rfl
      have holds := keeps
      simp only [Definition.Keeps, hk] at holds
      cases kind
      case object => exact fitValue_object_eq_self inside slotKind path keeps
      case list => exact fitValue_list_eq_self inside slotKind path keeps
      all_goals simp only [fitValue, Definition.missingPlaces, hk]
      case select => exact scalar (coerceSelect_of_holds holds)
      case boolean => exact scalar (coerceBoolean_of_holds holds)
      case number => exact scalar (coerceNumber_of_holds holds)
      case link => exact scalar (coerceLink_of_isWrittenLink holds)
      all_goals exact scalar (coerceText_of_holds holds)
termination_by sizeOf slot

/-- Fitting slots puts the values that they keep behind the others. -/
theorem fitSlots_eq_self {slots : List Definition} (distinct : (slots.map Definition.key).Nodup)
    (known : AllKnown slots) (path : String) {data result ms : Members} (kept : AreKept slots ms)
    (free : AreFree slots result)
    (same : ∀ key, key ∈ slots.map Definition.key → data.get? key = ms.get? key) :
    fitSlots path data result slots =
      .ok (result ++ ms, missingReports (missingPlaces path data slots)) := by
  match slots with
  | [] =>
      obtain rfl : ms = [] := kept
      rw [List.append_nil]
      rfl
  | slot :: slots =>
      obtain ⟨new, distinct⟩ := List.nodup_cons.1 distinct
      rw [fitSlots_cons]
      rcases kept with ⟨null, kept⟩ | ⟨v, rest, rfl, keeps, kept⟩
      -- nothing was kept for this slot, so nothing is given: its key is not among those behind it
      · have none : data.get? slot.key = .none := by
          rw [same slot.key List.mem_cons_self, Members.get?_eq_none_iff]
          intro given
          obtain ⟨m, mem, eq⟩ := List.mem_map.1 given
          exact new (eq ▸ mem_keys_of_areKept kept m mem)
        have later := fitSlots_eq_self distinct known.2 path kept free.tail fun key mem =>
          same key (List.mem_cons_of_mem _ mem)
        have left : place slot.key slot.default .none result = result := by rw [null]; rfl
        rw [fitSlot_of_get?_eq_none none null, missingPlaces_of_get?_eq_none none null, missingReports_append]
        simp only [bind, Except.bind, left, later]
        rfl
      -- the value that was kept is given, and its key is free in what was made so far
      · have given : data.get? slot.key = some v := by
          rw [same slot.key List.mem_cons_self, Members.get?, if_pos rfl]
        have last : place slot.key slot.default (some v) result = result ++ [(slot.key, v)] :=
          Members.set_of_not_mem free.not_mem_keys v
        have later := fitSlots_eq_self distinct known.2 path kept (free.tail.concat new v) fun key mem => by
          have other : slot.key ≠ key := fun eq => new (eq ▸ mem)
          rw [same key (List.mem_cons_of_mem _ mem), Members.get?, if_neg other]
        rw [fitSlot_of_get? given keeps.ne_null, fitValue_eq_self known.1 _ keeps,
          missingPlaces_of_get? given keeps.ne_null, missingReports_append]
        simp only [bind, Except.bind, last, later, List.append_assoc]
        rfl
termination_by sizeOf slots

end

/-- Fitting the data that a fitting has made leaves them as they are, and reports no more than the required
values that they still miss. -/
theorem coerce_coerce {slots : List Definition} (schema : IsSchema slots) (defaults : AllHoldDefaults slots)
    (data : Members) :
    ∃ out reports, coerce slots data = .ok (out, reports) ∧
      coerce slots out = .ok (out, missingReports (missingPlaces "slot_data" out slots)) := by
  obtain ⟨out, eqs, -⟩ := hasOutcome_fitSlots data (undeclared slots data) schema.distinct
    schema.known fun key hk => get?_undeclared_of_mem hk data
  obtain ⟨reports, first⟩ := eqs "slot_data"
  refine ⟨out, reports, first, ?_⟩
  have free := areFree_undeclared slots data
  obtain ⟨added, rfl, kept⟩ :=
    yieldsFit_fitSlots schema.distinct schema.known defaults "slot_data" data free _ first
  rw [coerce, undeclared_append free kept]
  exact fitSlots_eq_self schema.distinct schema.known "slot_data" kept free fun key => free.get?_append added

/-- The slots of a banner: a required heading, a choice, and buttons with one button by default, which has
no link. -/
def bannerSlots : List Definition :=
  [ ⟨"heading", "Heading", "text", true, .null, [], []⟩,
    ⟨"side", "Side", "select", false, .str "left", ["left", "right"], []⟩,
    ⟨"buttons", "Buttons", "list", false, .list [.obj [("label", .str "More")]], [],
      [ ⟨"label", "Label", "text", false, .null, [], []⟩,
        ⟨"link", "Link", "link", false, .null, [], []⟩ ]⟩ ]

/-- A banner without a heading: the second fitting changes nothing and reports the heading again. -/
theorem coerce_coerce_banner :
    (IsSchema bannerSlots ∧ AllHoldDefaults bannerSlots) ∧
      ∃ out reports, coerce bannerSlots [("side", .str "top"), ("note", .int 1)] = .ok (out, reports) ∧
        coerce bannerSlots out = .ok (out, missingReports (missingPlaces "slot_data" out bannerSlots)) := by
  have schema : IsSchema bannerSlots := by
    refine ⟨by decide, ?_⟩
    simp only [bannerSlots, AllKnown, Definition.IsKnown]
    decide
  have defaults : AllHoldDefaults bannerSlots := by
    have none {v : Value} (eq : v = .null) {P : Prop} : v ≠ .null → P := fun some => absurd eq some
    exact ⟨⟨none rfl, trivial⟩, ⟨fun _ => ⟨"", rfl⟩, trivial⟩,
      ⟨fun _ => ⟨"", rfl⟩, ⟨none rfl, trivial⟩, ⟨none rfl, trivial⟩, trivial⟩, trivial⟩
  exact ⟨⟨schema, defaults⟩, coerce_coerce schema defaults _⟩

end Pagewright.Slot
