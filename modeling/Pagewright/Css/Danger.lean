import Pagewright.Text.Blank
import Pagewright.Text.Letter
import Pagewright.Text.Word

/-!
# Pagewright.Css.Danger

Constructs that author CSS must not contain: loading of other sheets, script addresses, old ways to
run script from CSS, markup characters, escapes, and data addresses of anything but images.  Each is a
row of steps that a text is matched against without backtracking.
-/

namespace Pagewright.Css

open Text

/-- One step of a pattern. -/
inductive Step where
  /-- A text, regardless of case. -/
  | word (text : List Char)
  /-- Any number of blanks. -/
  | blanks
  /-- A quote of either kind, or nothing. -/
  | optionalQuote
  /-- The end of a word. -/
  | wordEnd
  /-- Anything but a text, regardless of case. -/
  | notBefore (text : List Char)

/-- What follows a step at the start of a text. -/
def Step.run : Step → List Char → Option (List Char)
  | .word text, cs => afterCaseless? text cs
  | .blanks, cs => some (cs.dropWhile isBlank)
  | .optionalQuote, '\'' :: cs => some cs
  | .optionalQuote, '"' :: cs => some cs
  | .optionalQuote, cs => some cs
  | .wordEnd, cs => if cs.head?.any isWord then none else some cs
  | .notBefore text, cs => if (afterCaseless? text cs).isSome then none else some cs

/-- Whether a text begins with a match of a pattern. -/
def matchesHere (pattern : List Step) (cs : List Char) : Bool :=
  (pattern.foldlM (fun rest (step : Step) => step.run rest) cs).isSome

/-- Whether a pattern matches anywhere in a text. -/
def matchesSomewhere (pattern : List Step) (cs : List Char) : Bool :=
  anySuffix (matchesHere pattern) cs

private def word (s : String) : Step := .word s.toList

/-- The constructs that are refused. -/
def dangers : List (List Step) :=
  [ [word "@import", .wordEnd],
    [word "@charset", .wordEnd],
    [word "@namespace", .wordEnd],
    [word "javascript", .blanks, word ":"],
    [word "vbscript", .blanks, word ":"],
    [word "expression", .blanks, word "("],
    [word "behavior", .blanks, word ":"],
    [word "-moz-binding"],
    [word "<"],
    [word ">"],
    [word "\\"],
    [word "url", .blanks, word "(", .blanks, .optionalQuote, .blanks, word "data:",
      .notBefore "image/".toList] ]

/-- Whether a text contains a construct that is refused. -/
def isDangerous (cs : List Char) : Bool := dangers.any (matchesSomewhere · cs)

end Pagewright.Css
