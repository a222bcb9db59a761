/-!
# Pagewright.Text.Blank

White space, and the words between it.  Blank are the white space characters of the Unicode standard
and the four separators from U+001C to U+001F.
-/

namespace Pagewright.Text

/-- Whether a character is white space. -/
def isBlank (c : Char) : Bool :=
  let n := c.toNat
  (9 ≤ n && n ≤ 13) || (28 ≤ n && n ≤ 32) || n == 0x85 || n == 0xa0 || n == 0x1680 ||
    (0x2000 ≤ n && n ≤ 0x200a) || n == 0x2028 || n == 0x2029 || n == 0x202f || n == 0x205f ||
    n == 0x3000

/-- A text without the blanks at its start. -/
def trimStart (cs : List Char) : List Char := cs.dropWhile isBlank

/-- A text without the blanks at its end. -/
def trimEnd (cs : List Char) : List Char := (cs.reverse.dropWhile isBlank).reverse

/-- A text without the blanks around it. -/
def trim (cs : List Char) : List Char := trimEnd (trimStart cs)

/-- The words of a text: its longest runs without a blank. -/
def words (cs : List Char) : List (List Char) :=
  cs.foldr
    (fun c acc =>
      if isBlank c then [] :: acc
      else match acc with
        | [] => [[c]]
        | w :: ws => (c :: w) :: ws)
    [] |>.filter (!·.isEmpty)

end Pagewright.Text

namespace Pagewright

/-- A text without the blanks around it. -/
def trimmed (s : String) : String := String.ofList (Text.trim s.toList)

end Pagewright
