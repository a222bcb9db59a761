import Pagewright.Slot.Definition

/-!
# Pagewright.Slot.Coerce

Fitting slot data to the declared slots.  Data under a key that no slot declares is kept as it is.
A declared slot takes its default if it has no value, or a value of the wrong kind; a value of a
neighbouring kind is turned into one of the declared kind.  Each value that does not fit, and each
required value that is missing, is reported, and the rest of the data is not affected.
-/

namespace Pagewright.Slot

/-- What was wrong with a value. -/
inductive Misfit where
  | missing
  | unknownType (type : String)
  | needsText
  | notAnOption (value : String)
  | needsBoolean
  | needsNumber
  | needsObject
  | needsList
  deriving DecidableEq

/-- The report of a misfit at a place of the data. -/
def Misfit.message (path : String) : Misfit → String
  | .missing => path ++ " 缺失（必填）"
  | .unknownType type => path ++ " 槽位类型未知: " ++ type
  | .needsText => path ++ " 需要字符串"
  | .notAnOption value => path ++ " 取值不在options中: " ++ value
  | .needsBoolean => path ++ " 需要布尔值"
  | .needsNumber => path ++ " 需要数值"
  | .needsObject => path ++ " 需要对象"
  | .needsList => path ++ " 需要数组"

/-! ## Scalars -/

/-- A text, or the text of a number. -/
def coerceText : Value → Except Misfit Value
  | .str s => .ok (.str s)
  | .int i => .ok (.str (Value.int i).display)
  | .float x => .ok (.str x.text)
  | _ => .error .needsText

/-- A text that is among the options, if there are any. -/
def coerceSelect (options : List String) (raw : Value) : Except Misfit Value := do
  let value ← coerceText raw
  if options.isEmpty || options.contains value.display then return value
  else .error (.notAnOption value.display)

/-- The words for true. -/
def trueWords : List String := ["true", "1", "yes", "on"]

/-- The words for false. -/
def falseWords : List String := ["false", "0", "no", "off", ""]

/-- A truth value, a number for whether it differs from zero, or a word for one. -/
def coerceBoolean : Value → Except Misfit Value
  | .bool b => .ok (.bool b)
  | .int i => .ok (.bool (i != 0))
  | .float x => .ok (.bool !x.isZero)
  | .str s =>
    let word := lowercase (trimmed s)
    if trueWords.contains word then .ok (.bool true)
    else if falseWords.contains word then .ok (.bool false)
    else .error .needsBoolean
  | _ => .error .needsBoolean

/-- A number, or a text that can be read as one; one without a fraction becomes an integer. -/
def coerceNumber : Value → Except Misfit Value
  | .int i => .ok (.int i)
  | .float x => .ok (.float x)
  | .str s =>
    match Numeral.real? (Text.trim s.toList) with
    | some x =>
      match x.isIntegral, x.truncate? with
      | true, some i => .ok (.int i)
      | _, _ => .ok (.float x)
    | none => .error .needsNumber
  | _ => .error .needsNumber

/-- The keys of a link whose values are texts. -/
def linkKeys : List String := ["url", "text", "target"]

/-- A value of a link as a text; null is the empty text. -/
def linkText : Value → Value
  | .null => .str ""
  | v => .str v.display

/-- An object whose address, text and target are texts where it has them. -/
def coerceLink : Value → Except Misfit Value
  | .obj ms =>
    .ok (.obj (ms.map fun (k, v) => if linkKeys.contains k then (k, linkText v) else (k, v)))
  | _ => .error .needsObject

/-! ## Objects and lists -/

/-- A value that fits, or none, and the reports on the way. -/
abbrev Fit := Except Fault (Option Value × List String)

/-- The outcome of fitting a scalar. -/
def Fit.scalar (path : String) : Except Misfit Value → Fit
  | .ok v => .ok (some v, [])
  | .error m => .ok (none, [m.message path])

/-- A report and no value. -/
def Fit.refuse (path : String) (m : Misfit) : Fit := .ok (none, [m.message path])

/-- Two types name no kind of value but a step of the fitting itself.  A slot of type `value` would
be fitted by fitting it, which never ends; one of type `mapping` by fitting a list of slots, which a
slot is not. -/
def reservedType? (type : String) : Option Fault :=
  if type = "value" then some .endless else if type = "mapping" then some .wrongKind else none

/-- Fits the items of a list one by one; items that are no objects are reported and left out. -/
def fitItems (fit : String → Members → Except Fault (Members × List String)) (path : String) :
    (index : Nat) → List Value → Except Fault (List Value × List String)
  | _, [] => .ok ([], [])
  | index, item :: items => do
    let here := path ++ "[" ++ toString index ++ "]"
    match item with
    | .obj ms =>
      let (ms, reports) ← fit here ms
      let (rest, more) ← fitItems fit path (index + 1) items
      return (.obj ms :: rest, reports ++ more)
    | _ =>
      let (rest, more) ← fitItems fit path (index + 1) items
      return (rest, Misfit.needsObject.message here :: more)

/-- Puts the value of a slot, or its default if it has none, under its key. -/
def place (key : String) (default : Value) (value : Option Value) (ms : Members) : Members :=
  match value with
  | some v => ms.set key v
  | none => if default.isNull then ms else ms.set key default

/-- The data under keys that no slot declares. -/
def undeclared (slots : List Definition) (data : Members) : Members :=
  data.filter fun m => !slots.any fun slot => slot.key == m.1

mutual

/-- Fits a value that is present to a slot. -/
def fitValue (path : String) (raw : Value) : Definition → Fit
  | ⟨_, _, type, _, _, options, subSlots⟩ =>
    match Kind.ofName? type with
    | some .text => Fit.scalar path (coerceText raw)
    | some .richtext => Fit.scalar path (coerceText raw)
    | some .image => Fit.scalar path (coerceText raw)
    | some .select => Fit.scalar path (coerceSelect options raw)
    | some .boolean => Fit.scalar path (coerceBoolean raw)
    | some .number => Fit.scalar path (coerceNumber raw)
    | some .link => Fit.scalar path (coerceLink raw)
    | some .object =>
      match raw with
      | .obj ms =>
        if subSlots.isEmpty then .ok (some raw, [])
        else do
          let (ms, reports) ← fitSlots path ms (undeclared subSlots ms) subSlots
          return (some (.obj ms), reports)
      | _ => Fit.refuse path .needsObject
    | some .list =>
      match raw with
      | .list items =>
        if subSlots.isEmpty then .ok (some raw, [])
        else do
          let fit := fun here ms => fitSlots here ms (undeclared subSlots ms) subSlots
          let (items, reports) ← fitItems fit path 0 items
          return (some (.list items), reports)
      | _ => Fit.refuse path .needsList
    | none =>
      match reservedType? type with
      | some f => .error f
      | none => Fit.refuse path (.unknownType type)
termination_by structural slot => slot

/-- Fits data to slots, one after the other, and puts their values into `result`. -/
def fitSlots (path : String) (data : Members) (result : Members) :
    List Definition → Except Fault (Members × List String)
  | [] => .ok (result, [])
  | slot :: slots => do
    let here := path ++ "." ++ slot.key
    let raw := data.get slot.key
    if raw.isNull then
      let reports :=
        if slot.default.isNull && slot.required then [Misfit.missing.message here] else []
      let (ms, more) ← fitSlots path data (place slot.key slot.default none result) slots
      return (ms, reports ++ more)
    else
      let (value, reports) ← fitValue here raw slot
      let (ms, more) ← fitSlots path data (place slot.key slot.default value result) slots
      return (ms, reports ++ more)
termination_by structural slots => slots

end

/-- Fits slot data to the declared slots: the data that results, and the reports. -/
def coerce (slots : List Definition) (data : Members) : Except Fault (Members × List String) :=
  fitSlots "slot_data" data (undeclared slots data) slots

/-- The reports on slot data that may be no object. -/
def reports (slots : List Definition) : Value → Except Fault (List String)
  | .obj ms => (coerce slots ms).map (·.2)
  | _ => .ok ["slot_data 必须是对象"]

end Pagewright.Slot
