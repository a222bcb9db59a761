/-!
# Pagewright.Text.Surrogate

Halves of surrogate pairs.  JSON text can name half of a pair alone.  A text may hold such a half among its
characters: it counts as one of them, but it is none, and UTF-8 has no form for it.  Here a half is represented
by a character of plane 13, where no character is assigned: the half with code point `n` by the one with code
point `halfOffset + n`.  These 2048 characters, which mean nothing, cannot be told from the halves.
-/

namespace Pagewright.Text

/-- Whether a code point is that of half of a surrogate pair. -/
def isSurrogate (n : Nat) : Bool := 0xd800 ≤ n && n ≤ 0xdfff

/-- How far the characters that represent halves are from these. -/
def halfOffset : Nat := 0xd0000

/-- The character with a code point, or the one that represents a half. -/
def ofCodePoint (n : Nat) : Char := Char.ofNat (if isSurrogate n then halfOffset + n else n)

/-- Whether a character represents half of a surrogate pair. -/
def isHalf (c : Char) : Bool := isSurrogate (c.toNat - halfOffset)

/-- The code point of a character, or of the half that it represents. -/
def codePoint (c : Char) : Nat := if isHalf c then c.toNat - halfOffset else c.toNat

/-- Whether there are halves of surrogate pairs in a text. -/
def hasHalf (s : String) : Bool := s.toList.any isHalf

/-- The octets of a text in UTF-8; a text with halves of surrogate pairs has none. -/
def encode? (s : String) : Option ByteArray := if hasHalf s then none else some s.toUTF8

/-- The number of octets in the name of a file.  A half comes from an octet that belongs to no character, and
stands for that octet. -/
def nameOctets : List Char → Nat
  | [] => 0
  | c :: cs => (if isHalf c then 1 else c.utf8Size) + nameOctets cs

end Pagewright.Text
