import Pagewright.Value.Display
import Pagewright.Value.Field

/-!
# Pagewright.Slot.Definition

The slots that an element template declares, and their records.  A record may name the slots inside a
slot by either of two spellings, and leaves out what is empty.
-/

namespace Pagewright.Slot

/-- A slot: its key in the slot data, what the editor shows for it, the type of its value and the
rules that the value is held to. -/
structure Definition where
  key : String
  label : String
  type : String
  required : Bool
  default : Value
  options : List String
  subSlots : List Definition
  deriving Inhabited

/-- The kinds of slot values. -/
inductive Kind where
  | text
  | richtext
  | image
  | link
  | select
  | boolean
  | number
  | list
  | object
  deriving DecidableEq, Inhabited

/-- The names of the kinds. -/
def Kind.names : List (String × Kind) :=
  [ ("text", .text), ("richtext", .richtext), ("image", .image), ("link", .link),
    ("select", .select), ("boolean", .boolean), ("number", .number), ("list", .list),
    ("object", .object) ]

/-- The kind of a name. -/
def Kind.ofName? (name : String) : Option Kind := names.lookup name

/-- The kind of a slot, if its type names one. -/
def Definition.kind? (slot : Definition) : Option Kind := Kind.ofName? slot.type

/-! ## Records -/

/-- The texts that a datum lists: the items of a list, the keys of an object, the characters of a
text.  What is empty or missing lists nothing. -/
def listedTexts (v : Value) : Except Fault (List String) :=
  if !v.isTruthy then .ok [] else return (← v.elements).map Value.display

/-- The texts of a record besides its key: an empty label is the key, an empty type is `text`. -/
private def shownText (v fallback : Value) : String := (v.orElse fallback).display

namespace Definition

/-- The slots that a datum lists that is no list: texts and objects list none. -/
def noItems (v : Value) : Except Fault (List Definition) :=
  match v with
  | .str _ => .ok []
  | .obj _ => .ok []
  | v => if v.isTruthy then .error .wrongKind else .ok []

mutual

/-- The slot of a record. -/
def ofMembers (ms : Members) : Except Fault Definition := do
  let key := (ms.get? "key").getD (.str "")
  let options ← listedTexts (ms.get "options")
  let subSlots ← match h : ms.first? ["sub_slots", "subSlots"] with
    | some (.list vs) =>
      have := Members.sizeOf_lt_of_first? h
      ofItems vs
    | some v => noItems v
    | none => pure []
  return {
    key := key.display
    label := shownText (ms.get "label") key
    type := shownText (ms.get "type") (.str "text")
    required := (ms.get "required").isTruthy
    default := ms.get "default"
    options
    subSlots }
termination_by sizeOf ms
decreasing_by
  simp only [Value.list.sizeOf_spec] at this
  omega

/-- The slots of those items of a list that are records. -/
def ofItems : List Value → Except Fault (List Definition)
  | [] => .ok []
  | .obj ms :: vs => do return (← ofMembers ms) :: (← ofItems vs)
  | _ :: vs => ofItems vs
termination_by vs => sizeOf vs

end

/-- The slot of a record that may be no object. -/
def ofValue : Value → Except Fault Definition
  | .obj ms => ofMembers ms
  | v => do
    let _ ← v.first? ["sub_slots", "subSlots"]
    .error .noMember

mutual

/-- The record of a slot. -/
def toMembers : Definition → Members
  | ⟨key, label, type, required, default, options, subSlots⟩ =>
    [("key", .str key), ("label", .str label), ("type", .str type), ("required", .bool required)] ++
      (if default.isNull then [] else [("default", default)]) ++
      (if options.isEmpty then [] else [("options", .list (options.map .str))]) ++
      (if subSlots.isEmpty then [] else [("sub_slots", .list (toItems subSlots))])

/-- The records of slots. -/
def toItems : List Definition → List Value
  | [] => []
  | d :: ds => .obj (toMembers d) :: toItems ds

end

end Definition

end Pagewright.Slot
