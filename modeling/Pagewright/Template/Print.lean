import Pagewright.Template.Basic

/-!
# Pagewright.Template.Print

Writing nodes back as template text, without white space inside the braces.
-/

namespace Pagewright.Template

/-- A tag in its shortest writing. -/
def Tag.print : Tag → List Char
  | .insert key true => ['\x7b', '\x7b', '\x7b'] ++ key ++ ['\x7d', '\x7d', '\x7d']
  | .insert key false => ['\x7b', '\x7b'] ++ key ++ ['\x7d', '\x7d']
  | .openBlock key false => ['\x7b', '\x7b', '#'] ++ key ++ ['\x7d', '\x7d']
  | .openBlock key true => ['\x7b', '\x7b', '^'] ++ key ++ ['\x7d', '\x7d']
  | .closeBlock key => ['\x7b', '\x7b', '/'] ++ key ++ ['\x7d', '\x7d']

mutual

/-- The text of a node. -/
def Node.print : Node → List Char
  | .text s => s
  | .insert key raw => (Tag.insert key raw).print
  | .block key inverted children =>
    (Tag.openBlock key inverted).print ++ printAll children ++ (Tag.closeBlock key).print

/-- The text of nodes one after the other. -/
def printAll : List Node → List Char
  | [] => []
  | n :: ns => n.print ++ printAll ns

end

end Pagewright.Template
