import Pagewright.Number.Binary64

/-!
# Pagewright.Value.Basic

The data that templates, styles and design documents are made of: null, booleans, integers of any
size, double precision numbers, texts, lists, and objects whose members keep the order in which they
were written.

An object is well formed when no key occurs twice.  `Members.set` keeps a key's place when the key is
there already and puts a new key last, so everything built with it is well formed.
-/

namespace Pagewright

/-- A datum. -/
inductive Value where
  | null
  | bool (b : Bool)
  | int (i : Int)
  | float (x : Binary64)
  | str (s : String)
  | list (items : List Value)
  | obj (members : List (String × Value))
  deriving Inhabited

/-- The members of an object, in the order written. -/
abbrev Members := List (String × Value)

/-! ## Members -/

namespace Members

/-- The value under a key. -/
def get? (key : String) : Members → Option Value
  | [] => none
  | (k, v) :: rest => if k = key then some v else get? key rest

/-- A value in an object is smaller than the object, which lets recursions over data end. -/
theorem sizeOf_lt_of_get? {key : String} {ms : Members} {v : Value} (h : ms.get? key = some v) :
    sizeOf v < sizeOf ms := by
  induction ms with
  | nil => simp [get?] at h
  | cons m rest ih =>
    obtain ⟨k, w⟩ := m
    unfold get? at h
    split at h
    · cases h
      simp only [List.cons.sizeOf_spec, Prod.mk.sizeOf_spec]
      omega
    · have := ih h
      simp only [List.cons.sizeOf_spec]
      omega

/-- The value under a key, null when there is none. -/
def get (key : String) (ms : Members) : Value := (ms.get? key).getD .null

/-- Whether a key is present. -/
def has (key : String) (ms : Members) : Bool := (ms.get? key).isSome

/-- Puts a value under a key: in the key's place if it has one, else at the end. -/
def set (key : String) (value : Value) : Members → Members
  | [] => [(key, value)]
  | (k, v) :: rest => if k = key then (k, value) :: rest else (k, v) :: set key value rest

/-- Puts all members of another object, one after the other. -/
def setAll (ms new : Members) : Members := new.foldl (fun acc m => set m.1 m.2 acc) ms

/-- The object without one key. -/
def drop (key : String) (ms : Members) : Members := ms.filter fun m => m.1 != key

/-- The keys in order. -/
def keys (ms : Members) : List String := ms.map (·.1)

/-- The members written one after the other, a repeated key keeping its first place and its last
value. -/
def ofList (ms : List (String × Value)) : Members := setAll [] ms

/-! ### Keys -/

/-- A member is missing exactly when its key is not among the keys. -/
theorem get?_eq_none_iff {key : String} {ms : Members} : ms.get? key = none ↔ key ∉ ms.keys := by
  induction ms with
  | nil => simp [get?, keys]
  | cons m rest ih =>
    obtain ⟨k, v⟩ := m
    by_cases h : k = key
    · simp [get?, keys, h]
    · have h' : key ≠ k := fun e => h e.symm
      rw [get?, if_neg h, ih]
      simp [keys, h']

@[simp] theorem get?_set_self (key : String) (v : Value) (ms : Members) :
    (ms.set key v).get? key = some v := by
  induction ms with
  | nil => simp [set, get?]
  | cons m rest ih =>
    obtain ⟨k, w⟩ := m
    by_cases h : k = key
    · simp [set, get?, h]
    · simp [set, get?, h, ih]

/-- Setting a member leaves the others. -/
theorem get?_set_of_ne {key other : String} (ne : other ≠ key) (v : Value) (ms : Members) :
    (ms.set key v).get? other = ms.get? other := by
  have ne' : key ≠ other := Ne.symm ne
  induction ms with
  | nil => simp [set, get?, ne']
  | cons m rest ih =>
    obtain ⟨k, w⟩ := m
    by_cases h : k = key
    · simp [set, get?, h, ne']
    · simp [set, get?, h, ih]

/-- A key that is set keeps its place, and a new one comes last. -/
theorem keys_set (key : String) (v : Value) (ms : Members) :
    (ms.set key v).keys = if key ∈ ms.keys then ms.keys else ms.keys ++ [key] := by
  induction ms with
  | nil => rfl
  | cons m rest ih =>
    obtain ⟨k, w⟩ := m
    by_cases h : k = key
    · subst h
      simp [set, keys]
    · have h' : key ≠ k := fun e => h e.symm
      have tail : (set key v ((k, w) :: rest)).keys = k :: (set key v rest).keys := by
        rw [set, if_neg h]
        rfl
      have head : Members.keys ((k, w) :: rest) = k :: Members.keys rest := rfl
      rw [tail, head, ih]
      by_cases mem : key ∈ Members.keys rest
      · rw [if_pos mem, if_pos (List.mem_cons_of_mem k mem)]
      · rw [if_neg mem, if_neg (by simp [h', mem])]
        rfl

end Members

namespace Value

/-! ## Equality -/

mutual

/-- Whether two data are the same. -/
def beq : Value → Value → Bool
  | .null, .null => true
  | .bool a, .bool b => a == b
  | .int a, .int b => a == b
  | .float a, .float b => decide (a = b)
  | .str a, .str b => a == b
  | .list a, .list b => beqItems a b
  | .obj a, .obj b => beqMembers a b
  | _, _ => false

/-- Whether two lists of data are the same. -/
def beqItems : List Value → List Value → Bool
  | [], [] => true
  | a :: as, b :: bs => beq a b && beqItems as bs
  | _, _ => false

/-- Whether two objects have the same members in the same order. -/
def beqMembers : List (String × Value) → List (String × Value) → Bool
  | [], [] => true
  | (k, a) :: as, (l, b) :: bs => k == l && beq a b && beqMembers as bs
  | _, _ => false

end

instance : BEq Value := ⟨beq⟩

/-! ## Kinds -/

/-- The text of a text. -/
def text? : Value → Option String
  | .str s => some s
  | _ => none

/-- The members of an object. -/
def members? : Value → Option Members
  | .obj ms => some ms
  | _ => none

/-- The items of a list. -/
def items? : Value → Option (List Value)
  | .list vs => some vs
  | _ => none

/-- Whether the datum is missing. -/
def isNull : Value → Bool
  | .null => true
  | _ => false

/-- Whether a datum is that text. -/
def isText (s : String) : Value → Bool
  | .str t => t == s
  | _ => false

/-- Whether a datum stands for true: null, false, zero and everything empty do not. -/
def isTruthy : Value → Bool
  | .null => false
  | .bool b => b
  | .int i => i != 0
  | .float x => !x.isZero
  | .str s => !s.isEmpty
  | .list vs => !vs.isEmpty
  | .obj ms => !ms.isEmpty

/-- A datum if it stands for true, else another one. -/
def orElse (v fallback : Value) : Value := if v.isTruthy then v else fallback

mutual

/-- Whether no object at any depth has a key twice. -/
def WellFormed : Value → Prop
  | .list vs => WellFormedItems vs
  | .obj ms => (ms.map (·.1)).Nodup ∧ WellFormedMembers ms
  | _ => True

/-- Whether all data of a list are well formed. -/
def WellFormedItems : List Value → Prop
  | [] => True
  | v :: vs => WellFormed v ∧ WellFormedItems vs

/-- Whether all values of an object are well formed. -/
def WellFormedMembers : List (String × Value) → Prop
  | [] => True
  | (_, v) :: ms => WellFormed v ∧ WellFormedMembers ms

end

end Value

namespace Members

/-- The value under the first of some keys that is present and not null. -/
def first? (ms : Members) : (keys : List String) → Option Value
  | [] => none
  | key :: keys =>
    match ms.get? key with
    | some v => if v.isNull then first? ms keys else some v
    | none => first? ms keys

/-- A member is smaller than its object. -/
theorem sizeOf_lt_of_first? {keys : List String} {ms : Members} {v : Value}
    (h : ms.first? keys = some v) : sizeOf v < sizeOf ms := by
  induction keys with
  | nil => simp [first?] at h
  | cons key keys ih =>
    unfold first? at h
    split at h
    · next w hw =>
      split at h
      · exact ih h
      · cases h
        exact sizeOf_lt_of_get? hw
    · exact ih h

end Members

end Pagewright
