import Pagewright.Css.Danger

/-!
# Pagewright.Style.Image

Addresses of background images: paths and addresses without markup characters, backslashes and closing
brackets, without the words for script and expressions, and data addresses only if they are images.
-/

namespace Pagewright.Style

open Text

/-- The texts that an address must not contain. -/
def refusedInAddress : List (List Char) :=
  [['<'], ['>'], "expression".toList, "javascript".toList, "vbscript".toList, ['\\'], [')']]

/-- Whether a text is a data address of something else than an image. -/
def isForeignData (cs : List Char) : Bool :=
  let small := cs.map lower
  startsWith small "data:".toList && !startsWith small "data:image/".toList

/-- Whether a text is an address of an image, the blanks around it aside. -/
def isImageAddress (s : String) : Bool :=
  let cs := trim s.toList
  !cs.isEmpty && !isForeignData cs && !refusedInAddress.any (occursCaseless · cs)

/-- A single value as it may stand in CSS: without the blanks around it, and empty if it contains a
refused construct or begins a comment. -/
def safeValue (s : String) : String :=
  let cs := trim s.toList
  if Css.isDangerous cs || occursIn ['/', '*'] cs then "" else String.ofList cs

end Pagewright.Style
