import Pagewright.Css.Danger
import Pagewright.Css.Sheet
import Pagewright.Settings
import Pagewright.Text.Slice

/-!
# Pagewright.Css.Sanitize

Cleaning author CSS.  Comments are taken out.  A part that contains a refused construct is dropped as
a whole, and so are parts that are never closed and at-rules without a block; what is left stands as it
was written.  The parts inside a group are cleaned in the same way, and a group with nothing left
inside is dropped.
-/

namespace Pagewright.Css

open Text

/-! ## Comments -/

/-- The number of characters up to the end of a comment whose beginning has been read. -/
def commentLength? : List Char → Option Nat
  | '*' :: '/' :: _ => some 2
  | _ :: cs => (commentLength? cs).map (· + 1)
  | [] => none

/-- A text without its comments; the first `skip` characters belong to one. -/
def dropCommentsFrom : (skip : Nat) → List Char → List Char
  | _, [] => []
  | skip + 1, _ :: cs => dropCommentsFrom skip cs
  | 0, c :: cs =>
    match c, cs with
    | '/', '*' :: rest =>
      match commentLength? rest with
      | some n => dropCommentsFrom (n + 1) cs
      | none => c :: dropCommentsFrom 0 cs
    | _, _ => c :: dropCommentsFrom 0 cs

/-- A text up to the first beginning of a comment. -/
def beforeComment : List Char → List Char
  | '/' :: '*' :: _ => []
  | c :: cs => c :: beforeComment cs
  | [] => []

/-- A text without comments, be they closed or not. -/
def withoutComments (cs : List Char) : List Char := beforeComment (dropCommentsFrom 0 cs)

/-! ## Parts -/

mutual

/-- The text that is left of a part, if any. -/
def Part.clean? : Part → Option (List Char)
  | .group header inner =>
    if isDangerous header then none
    else
      let body := join ['\n'] (cleanParts inner)
      if body.isEmpty then none else some (header ++ '\x7b' :: body ++ ['\x7d'])
  | .item kind text =>
    if kind == .unclosed || (kind != .block && text.head? == some '@') || isDangerous text then none
    else some text

/-- What is left of the parts. -/
def cleanParts : List Part → List (List Char)
  | [] => []
  | p :: ps =>
    match p.clean? with
    | some text => text :: cleanParts ps
    | none => cleanParts ps

end

/-- Author CSS without what is refused, at most as long as the settings allow. -/
def sanitize (settings : Settings) (raw : String) : String :=
  let css := withoutComments (takeSigned settings.customCssMaxLength raw.toList)
  String.ofList (join ['\n'] (cleanParts (parts css)))

end Pagewright.Css
