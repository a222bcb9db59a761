import Pagewright.Number.Decimal
import Pagewright.Text.Quoted
import Pagewright.Value.Basic

/-!
# Pagewright.Value.Display

The literal text of a datum.  Numbers are written in full, a text stands for itself, and inside a
list or an object a text is quoted.  This is what shows where a datum that is not a text is used as
one.
-/

namespace Pagewright.Value

mutual

/-- The literal text of a datum inside another one. -/
def literal : Value → String
  | .null => "None"
  | .bool b => if b then "True" else "False"
  | .int i => toString i
  | .float x => x.text
  | .str s => String.ofList (Text.quoted s.toList)
  | .list vs => "[" ++ String.intercalate ", " (literalItems vs) ++ "]"
  | .obj ms => "\x7b" ++ String.intercalate ", " (literalMembers ms) ++ "\x7d"

/-- The literal texts of the items of a list. -/
def literalItems : List Value → List String
  | [] => []
  | v :: vs => literal v :: literalItems vs

/-- The literal texts of the members of an object. -/
def literalMembers : List (String × Value) → List String
  | [] => []
  | (k, v) :: ms =>
    (String.ofList (Text.quoted k.toList) ++ ": " ++ literal v) :: literalMembers ms

end

/-- The literal text of a datum; a text stands for itself. -/
def display : Value → String
  | .str s => s
  | v => literal v

end Pagewright.Value
