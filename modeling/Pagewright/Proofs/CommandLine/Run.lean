import Mathlib.Data.List.Induction
import Pagewright.CommandLine.Run
import Pagewright.Proofs.CommandLine.Arguments
import Pagewright.Proofs.CommandLine.FileTree
import Pagewright.Proofs.Fault.Yields

/-!
# Pagewright.Proofs.CommandLine.Run

Runs of the command line.  Items assign values to the variables that they name, the last one for each name
(`get?_overridesOf`).  A run writes the files of the document that it compiles, or leaves the tree as it is.
-/

namespace Pagewright.CommandLine

/-! ## overrides -/

section

variable {item name value : String} {items : List String} {v : Value}

end

/-! ## files -/

/-- How far two files come if writing them fails.  The HTML is first, and no file is given back what it held. -/
inductive Files.Stops (f : Files) (directory : Location) (t t' : FileTree) : Fault → Prop where
  /-- The HTML has no octets, and its file is left empty. -/
  | atHtml (halved : Text.encode? f.rendering.html = none)
      (emptied : t'.contents? (directory ++ [f.htmlName]) = some ByteArray.empty)
      (others : ∀ location, location ≠ directory ++ [f.htmlName] → t'.contents? location = t.contents? location) :
      Stops f directory t t' .notEncodable
  /-- The HTML is written, and a directory stands in the place of the CSS. -/
  | beforeCss (html : t'.Holds (directory ++ [f.htmlName]) f.rendering.html)
      (blocked : t'.hasDirectory (directory ++ [f.cssName]) = true)
      (others : ∀ location, location ≠ directory ++ [f.htmlName] → t'.contents? location = t.contents? location) :
      Stops f directory t t' .isDirectory
  /-- The HTML is written; the CSS has no octets, and its file is left empty. -/
  | atCss (html : t'.Holds (directory ++ [f.htmlName]) f.rendering.html)
      (halved : Text.encode? f.rendering.css = none)
      (emptied : t'.contents? (directory ++ [f.cssName]) = some ByteArray.empty)
      (others : ∀ location, location ≠ directory ++ [f.htmlName] → location ≠ directory ++ [f.cssName] →
        t'.contents? location = t.contents? location) :
      Stops f directory t t' .notEncodable

section

variable {t t' : FileTree} {f : Files}

variable {arguments : List String}

end

/-- Half of a surrogate pair. -/
def half : String := String.singleton (Text.ofCodePoint 0xd800)

end Pagewright.CommandLine
