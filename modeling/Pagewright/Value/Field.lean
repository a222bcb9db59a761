import Pagewright.Fault
import Pagewright.Number.Numeral
import Pagewright.Value.Basic

/-!
# Pagewright.Value.Field

Reading records from data that may have any shape.  A record is an object, but a text or a list can
be searched for a key as well; it has nothing to give under a key that it contains.
-/

namespace Pagewright.Value

/-- What stands under the first of some keys that is present and not null. -/
def first? (keys : List String) : Value → Except Fault (Option Value)
  | .obj ms => .ok (Members.first? ms keys)
  | .list vs => if keys.any fun key => vs.any (·.isText key) then .error .wrongKind else .ok none
  | .str s =>
    if keys.any fun key => Text.occursIn key.toList s.toList then .error .wrongKind else .ok none
  | _ => .error .wrongKind

/-- Whether a key is present. -/
def has (key : String) : Value → Except Fault Bool
  | .obj ms => .ok (Members.has key ms)
  | .list vs => .ok (vs.any (·.isText key))
  | .str s => .ok (Text.occursIn key.toList s.toList)
  | _ => .error .wrongKind

/-- The member of an object under a key, null if there is none. -/
def member (key : String) : Value → Except Fault Value
  | .obj ms => .ok (Members.get key ms)
  | _ => .error .noMember

/-- The elements of a datum: the items of a list, the keys of an object, the characters of a text. -/
def elements : Value → Except Fault (List Value)
  | .list vs => .ok vs
  | .obj ms => .ok ((Members.keys ms).map .str)
  | .str s => .ok (s.toList.map fun c => .str (String.ofList [c]))
  | _ => .error .wrongKind

/-- The text that a datum looks up.  A scalar that is not a text finds nothing, and a list or an object
cannot be looked up. -/
def lookupKey? : Value → Except Fault (Option String)
  | .str s => .ok (some s)
  | .list _ => .error .wrongKind
  | .obj _ => .error .wrongKind
  | _ => .ok none

/-- A datum as an integer: numbers are cut off to integers, texts are read. -/
def toInteger : Value → Except Fault Int
  | .bool b => .ok (if b then 1 else 0)
  | .int i => .ok i
  | .float x =>
    match x, x.truncate? with
    | _, some i => .ok i
    | .nan, none => .error .badValue
    | _, none => .error .overflow
  | .str s =>
    match Numeral.integer? s.toList with
    | some i => .ok i
    | none => .error .badValue
  | _ => .error .wrongKind

end Pagewright.Value
