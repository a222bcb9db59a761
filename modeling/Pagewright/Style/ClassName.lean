import Pagewright.Text.Blank
import Pagewright.Value.Basic

/-!
# Pagewright.Style.ClassName

The class names that an author adds to a container.
-/

namespace Pagewright.Style

/-- The characters that a class name begins with, a hyphen in front aside. -/
def isClassStart (c : Char) : Bool := c.isAlpha || c == '_'

/-- The characters of class names. -/
def isClassChar (c : Char) : Bool := c.isAlphanum || c == '_' || c == '-'

/-- Whether a text is a class name: letters, digits, hyphens and underscores, not beginning with a
digit, with two hyphens or with a hyphen and a digit. -/
def isClassName (cs : List Char) : Bool :=
  let body := match cs with
    | '-' :: rest => rest
    | _ => cs
  match body with
  | c :: rest => isClassStart c && rest.all isClassChar
  | [] => false

/-- The texts that are class names, each once. -/
def classNames (candidates : List (List Char)) : List (List Char) :=
  (candidates.filter isClassName).foldl
    (fun seen name => if seen.contains name then seen else seen ++ [name]) []

/-- The candidates for class names: the words of a text, or the texts of a list. -/
def classCandidates : Value → List (List Char)
  | .str s => Text.words s.toList
  | .list vs => vs.filterMap fun v => v.text?.map fun s => Text.trim s.toList
  | _ => []

/-- The class names of a datum; an object has them under a key of its own. -/
def classesOf : Value → List String
  | .obj ms =>
    let v := (Members.get? "custom_class" ms).getD (Members.get "customClass" ms)
    (classNames (classCandidates v)).map String.ofList
  | v => (classNames (classCandidates v)).map String.ofList

end Pagewright.Style
