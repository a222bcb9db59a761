import Pagewright.Text.Letter

/-!
# Pagewright.Text.Replace

Replacing a text inside another one, from left to right.
-/

namespace Pagewright.Text

/-- A text with every occurrence of `old` replaced by `new`; the first `skip` characters belong to an
occurrence.  An empty text occurs nowhere. -/
def replaceFrom (old new : List Char) : (skip : Nat) → List Char → List Char
  | _, [] => []
  | skip + 1, _ :: cs => replaceFrom old new skip cs
  | 0, c :: cs =>
    if !old.isEmpty && startsWith (c :: cs) old then
      new ++ replaceFrom old new (old.length - 1) cs
    else c :: replaceFrom old new 0 cs

/-- A text with every occurrence of `old` replaced by `new`. -/
def replace (old new cs : List Char) : List Char := replaceFrom old new 0 cs

end Pagewright.Text
