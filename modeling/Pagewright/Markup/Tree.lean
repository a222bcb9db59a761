import Pagewright.Markup.Escape

/-!
# Pagewright.Markup.Tree

HTML as a tree.  Texts and attribute values are kept as they are written, that is escaped; `print` adds
only the tags, so the printed tree is well nested whatever stands in it.
-/

namespace Pagewright.Markup

/-- An attribute: its name, and its value as it is written between the quotes. -/
structure Attribute where
  name : String
  value : String
  deriving DecidableEq, Inhabited

/-- A node of an HTML tree. -/
inductive Tree where
  /-- Text as it is written. -/
  | text (written : String)
  /-- Markup that is taken over as it is. -/
  | raw (source : String)
  /-- An element with its content. -/
  | element (tag : String) (attributes : List Attribute) (children : List Tree)
  /-- An element without content that needs no closing tag. -/
  | void (tag : String) (attributes : List Attribute)
  /-- An element without content that is closed in its tag. -/
  | closed (tag : String) (attributes : List Attribute)
  /-- A comment. -/
  | comment (written : String)
  deriving Inhabited

/-- The text of an attribute, with a blank in front. -/
def Attribute.print (a : Attribute) : String := " " ++ a.name ++ "=\"" ++ a.value ++ "\""

/-- The text of attributes. -/
def printAttributes (as : List Attribute) : String := String.join (as.map Attribute.print)

mutual

/-- The text of a tree. -/
def Tree.print : Tree → String
  | .text written => written
  | .raw source => source
  | .element tag as children =>
    "<" ++ tag ++ printAttributes as ++ ">" ++ printTrees children ++ "</" ++ tag ++ ">"
  | .void tag as => "<" ++ tag ++ printAttributes as ++ ">"
  | .closed tag as => "<" ++ tag ++ printAttributes as ++ "/>"
  | .comment written => "<!--" ++ written ++ "-->"

/-- The text of trees one after the other. -/
def printTrees : List Tree → String
  | [] => ""
  | t :: ts => t.print ++ printTrees ts

end

theorem printTrees_append (ts us : List Tree) :
    printTrees (ts ++ us) = printTrees ts ++ printTrees us := by
  induction ts with
  | nil => simp [printTrees]
  | cons t ts ih => rw [List.cons_append, printTrees, printTrees, ih, String.append_assoc]

end Pagewright.Markup
