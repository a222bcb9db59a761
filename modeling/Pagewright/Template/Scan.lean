import Pagewright.Template.Basic
import Pagewright.Text.Blank
import Pagewright.Text.Word

/-!
# Pagewright.Template.Scan

Cutting a template into pieces.  A tag is a key of word characters and points in double braces, with
a sigil in front of the key if it opens or closes a block, or in triple braces for a raw value; there
may be white space inside the braces.  Everything else in braces is text.  `scan` finds the tags from
left to right, and the sources of the pieces make up the template again.
-/

namespace Pagewright.Template

open Text

/-- The characters of keys. -/
def isKeyChar (c : Char) : Bool := isWord c || c == '.'

/-- A key with the blanks around it: the key, and what follows. -/
def key? (cs : List Char) : Option (List Char × List Char) :=
  let cs := cs.dropWhile isBlank
  let key := cs.takeWhile isKeyChar
  if key.isEmpty then none else some (key, (cs.dropWhile isKeyChar).dropWhile isBlank)

/-- A raw tag at the start of a text, and what follows. -/
def rawTag? : List Char → Option (Tag × List Char)
  | '\x7b' :: '\x7b' :: '\x7b' :: cs =>
    match key? cs with
    | some (key, '\x7d' :: '\x7d' :: '\x7d' :: rest) => some (.insert key true, rest)
    | _ => none
  | _ => none

/-- The tag that a sigil makes of a key. -/
def sigil : List Char → (List Char → Tag) × List Char
  | '#' :: cs => ((.openBlock · false), cs)
  | '^' :: cs => ((.openBlock · true), cs)
  | '/' :: cs => (.closeBlock, cs)
  | cs => ((.insert · false), cs)

/-- A tag in double braces at the start of a text, and what follows. -/
def plainTag? : List Char → Option (Tag × List Char)
  | '\x7b' :: '\x7b' :: cs =>
    let (tag, cs) := sigil (cs.dropWhile isBlank)
    match key? cs with
    | some (key, '\x7d' :: '\x7d' :: rest) => some (tag key, rest)
    | _ => none
  | _ => none

/-- A tag at the start of a text, and its length. -/
def tag? (cs : List Char) : Option (Tag × Nat) :=
  (rawTag? cs <|> plainTag? cs).map fun (tag, rest) => (tag, cs.length - rest.length)

/-- Puts a character in front of the pieces. -/
def addChar (c : Char) : List Piece → List Piece
  | .text s :: ps => .text (c :: s) :: ps
  | ps => .text [c] :: ps

/-- The pieces of a template; the first `skip` characters belong to a tag that has been read. -/
def scanFrom : (skip : Nat) → List Char → List Piece
  | _, [] => []
  | skip + 1, _ :: cs => scanFrom skip cs
  | 0, c :: cs =>
    match tag? (c :: cs) with
    | some (tag, width) => .tag tag ((c :: cs).take width) :: scanFrom (width - 1) cs
    | none => addChar c (scanFrom 0 cs)

/-- The pieces of a template. -/
def scan (cs : List Char) : List Piece := scanFrom 0 cs

end Pagewright.Template
