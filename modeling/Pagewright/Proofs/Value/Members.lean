import Mathlib.Data.List.Basic
import Pagewright.Value.Basic

/-!
# Pagewright.Proofs.Value.Members

Members set and put together.  Where a member stands that is set, and what stands under a key of members
one after the other, of the members with some keys, and of one object over another.  Members whose keys are
in a given order are told by what stands under their keys.
-/

namespace Pagewright

theorem Value.isNull_iff {v : Value} : v.isNull = true ↔ v = .null := by
  cases v <;> simp [isNull]

namespace Members

/-! ## setting -/

/-- A new member is put at the end. -/
theorem set_of_not_mem {key : String} {ms : Members} (new : key ∉ ms.keys) (v : Value) :
    ms.set key v = ms ++ [(key, v)] := by
  induction ms with
  | nil => rfl
  | cons m ms ih =>
      obtain ⟨k, w⟩ := m
      obtain ⟨other, new⟩ := not_or.1 fun mem => new (List.mem_cons.2 mem)
      rw [set, if_neg (Ne.symm other), ih new, List.cons_append]

/-- Of two values that are set under one key, the second counts. -/
theorem set_set (key : String) (v w : Value) (ms : Members) : (ms.set key v).set key w = ms.set key w := by
  induction ms with
  | nil => simp [set]
  | cons m ms ih =>
      obtain ⟨k, u⟩ := m
      by_cases same : k = key
      · simp [set, same]
      · simp [set, same, ih]

/-- A member that is left out may be set to anything. -/
theorem filter_set {key : String} {p : String → Bool} (out : p key = false) (v : Value) (ms : Members) :
    (ms.set key v).filter (fun m => p m.1) = ms.filter fun m => p m.1 := by
  induction ms with
  | nil => simp [set, out]
  | cons m ms ih =>
      obtain ⟨k, u⟩ := m
      by_cases same : k = key
      · subst same
        simp [set, out]
      · simp [set, same, List.filter_cons, ih]

/-- Members with new and different keys are put at the end as they are. -/
theorem setAll_of_nodup {ms new : Members} (h : (ms ++ new : Members).keys.Nodup) :
    ms.setAll new = ms ++ new := by
  induction new generalizing ms with
  | nil => exact (List.append_nil ms).symm
  | cons m new ih =>
      have fresh : m.1 ∉ ms.keys := fun mem => by
        rw [keys, List.map_append, List.map_cons] at h
        exact (List.nodup_append.1 h).2.2 m.1 mem m.1 List.mem_cons_self rfl
      rw [List.append_cons] at h
      rw [setAll, List.foldl_cons, set_of_not_mem fresh]
      exact (ih h).trans (List.append_cons ms m new).symm

/-- A member that is set stays where it is. -/
theorem set_append_cons {key : String} {before : Members} (new : key ∉ before.keys) (v w : Value)
    (after : Members) : set key w (before ++ (key, v) :: after) = before ++ (key, w) :: after := by
  induction before with
  | nil => exact if_pos rfl
  | cons m before ih =>
      obtain ⟨k, u⟩ := m
      obtain ⟨other, new⟩ := not_or.1 fun mem => new (List.mem_cons.2 mem)
      rw [List.cons_append, set, if_neg (Ne.symm other), ih new, List.cons_append]

/-- Of all members that are set, those with new keys come last, in their order. -/
theorem keys_setAll {new : Members} (distinct : new.keys.Nodup) (ms : Members) :
    (ms.setAll new).keys = ms.keys ++ new.keys.filter fun key => !ms.keys.contains key := by
  induction new generalizing ms with
  | nil => exact (List.append_nil _).symm
  | cons m new ih =>
      obtain ⟨key, v⟩ := m
      obtain ⟨fresh, distinct⟩ := List.nodup_cons.1 distinct
      have step : ms.setAll ((key, v) :: new) = (ms.set key v).setAll new := rfl
      have head : keys ((key, v) :: new) = key :: keys new := rfl
      rw [step, ih distinct, keys_set, head]
      by_cases mem : key ∈ ms.keys
      · simp [mem]
      · have same : (keys new).filter (fun k => !(ms.keys ++ [key]).contains k) =
            (keys new).filter fun k => !ms.keys.contains k := by
          refine List.filter_congr fun k here => ?_
          have other : k ≠ key := fun same => fresh (same ▸ here)
          simp [other]
        rw [if_neg mem, same, List.filter_cons_of_pos (by simpa using mem), List.append_assoc]
        rfl

/-! ## looking up -/

theorem mem_of_get? {key : String} {ms : Members} {v : Value} (h : ms.get? key = some v) :
    (key, v) ∈ ms := by
  induction ms with
  | nil => cases h
  | cons m ms ih =>
      obtain ⟨other, w⟩ := m
      unfold get? at h
      split at h
      · next same =>
        cases h
        rw [same]
        exact List.mem_cons_self ..
      · exact List.mem_cons_of_mem _ (ih h)

/-- The member that is found is the first one with its key. -/
theorem exists_split_of_get? {key : String} {ms : Members} {v : Value} (h : ms.get? key = some v) :
    ∃ before after : Members, ms = before ++ (key, v) :: after ∧ key ∉ before.keys := by
  induction ms with
  | nil => cases h
  | cons m ms ih =>
      obtain ⟨k, w⟩ := m
      unfold get? at h
      split at h
      · next same =>
        cases h
        exact ⟨[], ms, by rw [same]; rfl, List.not_mem_nil⟩
      · next other =>
        obtain ⟨before, after, eq, new⟩ := ih h
        refine ⟨(k, w) :: before, after, by rw [eq, List.cons_append], fun mem => ?_⟩
        rcases List.mem_cons.1 mem with same | mem
        · exact other same.symm
        · exact new mem

/-- All members that are set are there, and the others are as they were. -/
theorem get?_setAll {new : Members} (distinct : new.keys.Nodup) (ms : Members) (key : String) :
    (ms.setAll new).get? key = (new.get? key).or (ms.get? key) := by
  induction new generalizing ms with
  | nil => rfl
  | cons m new ih =>
      obtain ⟨k, v⟩ := m
      obtain ⟨fresh, distinct⟩ := List.nodup_cons.1 distinct
      have step : ms.setAll ((k, v) :: new) = (ms.set k v).setAll new := rfl
      rw [step, ih distinct, get?]
      by_cases same : k = key
      · subst same
        rw [get?_eq_none_iff.2 fresh, get?_set_self, if_pos rfl]
        rfl
      · rw [get?_set_of_ne (Ne.symm same), if_neg same]

/-- With distinct keys, every member is found. -/
theorem get?_of_mem {ms : Members} (distinct : ms.keys.Nodup) {m : String × Value} (mem : m ∈ ms) :
    ms.get? m.1 = some m.2 := by
  induction ms with
  | nil => cases mem
  | cons first ms ih =>
      obtain ⟨new, distinct⟩ := List.nodup_cons.1 distinct
      rcases List.mem_cons.1 mem with rfl | mem
      · exact if_pos rfl
      · have other : first.1 ≠ m.1 := fun same => new (List.mem_map.2 ⟨m, mem, same.symm⟩)
        rw [get?, if_neg other, ih distinct mem]

theorem get_of_get? {key : String} {ms : Members} {v : Value} (h : ms.get? key = some v) : ms.get key = v := by
  rw [get, h, Option.getD_some]

/-- A missing member counts as null. -/
theorem get_of_get?_eq_none {key : String} {ms : Members} (h : ms.get? key = none) : ms.get key = .null := by
  rw [get, h, Option.getD_none]

/-- A value other than null is one that is there. -/
theorem get?_of_get {key : String} {ms : Members} {v : Value} (h : ms.get key = v) (given : v ≠ .null) :
    ms.get? key = some v := by
  subst h
  cases found : ms.get? key with
  | none => exact absurd (get_of_get?_eq_none found) given
  | some w => rw [get_of_get? found]

/-- In two rows of members, the first is searched first. -/
theorem get?_append (key : String) (ms ns : Members) :
    get? key (ms ++ ns) = (get? key ms).or (get? key ns) := by
  induction ms with
  | nil => rfl
  | cons m ms ih =>
      obtain ⟨k, v⟩ := m
      by_cases same : k = key
      · simp [get?, same]
      · simp [get?, same, ih]

/-- The members of some fields, as far as they have values. -/
theorem get?_filterMap (fields : List String) (value? : String → Option Value) (key : String) :
    get? key (fields.filterMap fun field => (value? field).map (field, ·)) =
      if key ∈ fields then value? key else none := by
  induction fields with
  | nil => rfl
  | cons field fields ih =>
      have step : get? key ((field :: fields).filterMap fun field => (value? field).map (field, ·)) =
          (if key = field then value? field else none).or (if key ∈ fields then value? key else none) := by
        rw [← ih, List.filterMap_cons]
        by_cases same : key = field
        · cases given : value? field <;> simp [get?, same]
        · cases given : value? field <;> simp [get?, same, Ne.symm same]
      rw [step]
      by_cases same : key = field
      · subst same
        cases value? key <;> simp
      · simp [same]

/-- The members with some keys. -/
theorem get?_filter (p : String → Bool) (key : String) (ms : Members) :
    get? key (ms.filter fun m => p m.1) = if p key then get? key ms else none := by
  induction ms with
  | nil => simp [get?]
  | cons m ms ih =>
      obtain ⟨k, v⟩ := m
      rw [List.filter_cons]
      by_cases same : k = key
      · subst same
        cases kept : p k <;> simp [get?, ih, kept]
      · cases p k <;> simp [get?, ih, same]

/-- One object over another: under a key that both have, the value of the inner one. -/
def overlay (inner outer : Members) : Members := inner ++ outer.filter fun m => !inner.has m.1

/-- Under a key the inner value counts, and the outer one where there is none. -/
theorem get?_overlay (inner outer : Members) (key : String) :
    (inner.overlay outer).get? key = (inner.get? key).or (outer.get? key) := by
  rw [overlay, get?_append, get?_filter (fun k => !inner.has k)]
  cases given : inner.get? key <;> simp [has, given]

/-! ## keys in order -/

/-- The keys of members that are made one by one stand in the order of what they are made of. -/
theorem keys_filterMap_sublist {α : Type} (key : α → String) (value? : α → Option Value) (items : List α) :
    (keys (items.filterMap fun a => (value? a).map (key a, ·))).Sublist (items.map key) := by
  induction items with
  | nil => exact .slnil
  | cons a items ih =>
      rw [List.filterMap_cons]
      cases value? a with
      | none => exact .cons _ ih
      | some v => exact .cons_cons _ ih

/-- Members whose keys are among some keys, in their order, are what stands under these. -/
theorem eq_filterMap_get? {fields : List String} (distinct : fields.Nodup) {ms : Members}
    (h : ms.keys.Sublist fields) : ms = fields.filterMap fun key => (ms.get? key).map (key, ·) := by
  induction fields generalizing ms with
  | nil => exact List.map_eq_nil_iff.1 (List.sublist_nil.1 h)
  | cons field fields ih =>
      obtain ⟨new, apart⟩ := List.nodup_cons.1 distinct
      rcases List.sublist_cons_iff.1 h with later | ⟨keys, eq, later⟩
      · have absent : ms.get? field = none := get?_eq_none_iff.2 fun mem => new (later.subset mem)
        rw [List.filterMap_cons, absent]
        exact ih apart later
      · obtain ⟨⟨k, v⟩, rest, rfl, rfl, rfl⟩ := List.map_eq_cons_iff.1 eq
        have same : ∀ key ∈ fields, get? key ((k, v) :: rest) = get? key rest := by
          intro key mem
          have other : k ≠ key := fun same => new (same ▸ mem)
          rw [get?, if_neg other]
        rw [List.filterMap_cons, get?, if_pos rfl, List.filterMap_congr fun key mem => by rw [same key mem]]
        exact congrArg _ (ih apart later)

/-- Members with keys in one order are equal if they have the same values. -/
theorem eq_of_get?_eq {fields : List String} (distinct : fields.Nodup) {ms ns : Members}
    (hms : ms.keys.Sublist fields) (hns : ns.keys.Sublist fields) (h : ∀ key, ms.get? key = ns.get? key) :
    ms = ns := by
  have told := eq_filterMap_get? distinct hms
  simp only [h] at told
  exact told.trans (eq_filterMap_get? distinct hns).symm

/-! ## several keys -/

/-- The first key with a value counts. -/
theorem first?_of_get? {key : String} {ms : Members} {v : Value} (h : ms.get? key = some v) (given : v ≠ .null)
    (keys : List String) : ms.first? (key :: keys) = some v := by
  have present : ¬ v.isNull = true := fun null => given (Value.isNull_iff.1 null)
  rw [first?, h]
  exact if_neg present

/-- Null counts as missing. -/
theorem first?_ne_null {keys : List String} {ms : Members} {v : Value} (h : ms.first? keys = some v) :
    v ≠ .null := by
  induction keys with
  | nil => cases h
  | cons key keys ih =>
      unfold first? at h
      split at h
      · split at h
        · exact ih h
        · next present =>
          cases h
          exact fun null => present (Value.isNull_iff.2 null)
      · exact ih h

/-- With a default that is not null, nothing null is found. -/
theorem getD_first?_ne_null {keys : List String} {ms : Members} {default : Value} (h : default ≠ .null) :
    (ms.first? keys).getD default ≠ .null := by
  cases found : ms.first? keys with
  | none => exact h
  | some v => exact first?_ne_null found

end Members

end Pagewright
