/-!
# Pagewright.Template.Basic

The parts of a slot template.  Templates are plain text with tags in double braces: a tag inserts a
value, escaped or raw, or opens or closes a block that is shown for every item of a list, once for
any other value that counts as true, or, if inverted, for a value that does not.

Texts and keys are lists of characters here, so that cutting a template into tags and printing it
again can be stated without going through strings.
-/

namespace Pagewright.Template

/-- A tag. -/
inductive Tag where
  /-- Inserts the value of a key, as it is or escaped. -/
  | insert (key : List Char) (raw : Bool)
  /-- Opens a block. -/
  | openBlock (key : List Char) (inverted : Bool)
  /-- Closes the block of that key. -/
  | closeBlock (key : List Char)
  deriving DecidableEq, Inhabited

/-- A piece of a template: a text without tags, or a tag as it was written. -/
inductive Piece where
  | text (source : List Char)
  | tag (tag : Tag) (source : List Char)
  deriving DecidableEq, Inhabited

/-- The characters of a piece. -/
def Piece.source : Piece → List Char
  | .text s => s
  | .tag _ s => s

/-- A node of a parsed template. -/
inductive Node where
  | text (source : List Char)
  | insert (key : List Char) (raw : Bool)
  | block (key : List Char) (inverted : Bool) (children : List Node)
  deriving Inhabited

end Pagewright.Template
