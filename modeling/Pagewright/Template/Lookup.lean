import Pagewright.Fault
import Pagewright.Number.Numeral
import Pagewright.Template.Basic
import Pagewright.Text.Split
import Pagewright.Value.Display

/-!
# Pagewright.Template.Lookup

Finding the value of a key.  The scopes are the data at hand, innermost first: an item of a list for
every loop that is running, and the slot data outside.  The first part of a key is looked for in the
objects among the scopes, the further parts lead into the value found, by member or by index.
-/

namespace Pagewright.Template

/-- One step into a value: a member of an object, or an item of a list by a row of digits.  A row of
digits that is no numeral is a fault. -/
def descend (value : Value) (part : List Char) : Except Fault Value :=
  match value with
  | .obj ms => .ok (Members.get (String.ofList part) ms)
  | .list vs =>
    if part.isEmpty || !part.all Text.isDigit then .ok .null
    else match Numeral.integer? part with
      | some i => .ok (vs[i.toNat]?.getD .null)
      | none => .error .badValue
  | _ => .ok .null

/-- The value of a name in the innermost object that has it. -/
def find? (name : String) : (scopes : List Value) → Option Value
  | [] => none
  | .obj ms :: scopes =>
    match Members.get? name ms with
    | some v => some v
    | none => find? name scopes
  | _ :: scopes => find? name scopes

/-- The value of a key, null if there is none. -/
def lookup (key : List Char) (scopes : List Value) : Except Fault Value :=
  if key = ['.'] then .ok (scopes.headD .null)
  else match Text.split '.' key with
    | [] => .ok .null
    | name :: path =>
      match find? (String.ofList name) scopes with
      | some v => path.foldlM descend v
      | none => .ok .null

end Pagewright.Template
