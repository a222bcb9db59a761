import Pagewright.Fault
import Pagewright.Markup.NamedReference
import Pagewright.Number.Numeral

/-!
# Pagewright.Markup.CharacterReference

Reading character references in HTML text: numbers in base ten and sixteen, and names.  A name that
is not known is read as the longest known name it begins with, and left alone if there is none.
Code points that HTML never shows are dropped, those of an older encoding are replaced by what they
meant there, and what is no character becomes U+FFFD.
-/

namespace Pagewright.Markup

/-! ## The text of a reference -/

/-- The characters that may stand in a name. -/
def isNameChar (c : Char) : Bool :=
  !(c == '\t' || c == '\n' || c == '\x0c' || c == ' ' || c == '<' || c == '&' || c == '#' ||
    c == ';')

/-- Whether a character is a digit in base sixteen. -/
def isHexDigit (c : Char) : Bool :=
  c.isDigit || ('a' ≤ c && c ≤ 'f') || ('A' ≤ c && c ≤ 'F')

/-- A reference without its ampersand. -/
inductive Reference where
  /-- The digits of a code point in base ten or sixteen. -/
  | number (hexadecimal : Bool) (digits : List Char)
  /-- A name, with its semicolon where it has one. -/
  | named (text : List Char)

private def semicolon : List Char → Nat
  | ';' :: _ => 1
  | _ => 0

/-- The reference at the start of what follows an ampersand, and its length. -/
def reference? (cs : List Char) : Option (Reference × Nat) :=
  match cs with
  | '#' :: rest =>
    let decimal := rest.takeWhile Char.isDigit
    if !decimal.isEmpty then
      some (.number false decimal, 1 + decimal.length + semicolon (rest.drop decimal.length))
    else
      match rest with
      | x :: digits =>
        let hex := digits.takeWhile isHexDigit
        if (x == 'x' || x == 'X') && !hex.isEmpty then
          some (.number true hex, 2 + hex.length + semicolon (digits.drop hex.length))
        else none
      | [] => none
  | _ =>
    let name := (cs.takeWhile isNameChar).take 32
    if name.isEmpty then none
    else
      let width := name.length + semicolon (cs.drop name.length)
      some (.named (cs.take width), width)

/-! ## What a reference stands for -/

/-- The characters that an older encoding has at the code points from 128 to 159. -/
def legacyCodes : List (Nat × Char) :=
  [ (0x80, '\u20ac'), (0x82, '\u201a'), (0x83, '\u0192'), (0x84, '\u201e'), (0x85, '\u2026'),
    (0x86, '\u2020'), (0x87, '\u2021'), (0x88, '\u02c6'), (0x89, '\u2030'), (0x8a, '\u0160'),
    (0x8b, '\u2039'), (0x8c, '\u0152'), (0x8e, '\u017d'), (0x91, '\u2018'), (0x92, '\u2019'),
    (0x93, '\u201c'), (0x94, '\u201d'), (0x95, '\u2022'), (0x96, '\u2013'), (0x97, '\u2014'),
    (0x98, '\u02dc'), (0x99, '\u2122'), (0x9a, '\u0161'), (0x9b, '\u203a'), (0x9c, '\u0153'),
    (0x9e, '\u017e'), (0x9f, '\u0178') ]

/-- The control characters and the code points that are reserved for no character. -/
def isDroppedCode (n : Nat) : Bool :=
  (1 ≤ n && n ≤ 8) || n == 0xb || (0xe ≤ n && n ≤ 0x1f) || n == 0x7f ||
    (0xfdd0 ≤ n && n ≤ 0xfdef) || n % 0x10000 == 0xfffe || n % 0x10000 == 0xffff

/-- The text that a code point stands for. -/
def codeText (n : Nat) : List Char :=
  if n = 0 then ['\ufffd']
  else if 0x80 ≤ n ∧ n ≤ 0x9f then [(legacyCodes.lookup n).getD (Char.ofNat n)]
  else if (0xd800 ≤ n ∧ n ≤ 0xdfff) ∨ 0x10ffff < n then ['\ufffd']
  else if isDroppedCode n then []
  else [Char.ofNat n]

/-- The text of a name that is not known as a whole: its longest known beginning of `n` characters
or fewer, but at least two, is replaced. -/
def prefixText (name : List Char) : (n : Nat) → List Char
  | 0 => '&' :: name
  | n + 1 =>
    if n = 0 then '&' :: name
    else match named? (name.take (n + 1)) with
      | some text => text ++ name.drop (n + 1)
      | none => prefixText name n

/-- The text that a reference stands for.  A code point with more digits in base ten than are read
is a fault. -/
def Reference.text : Reference → Except Fault (List Char)
  | .number false digits =>
    if Numeral.digitLimit < digits.length then .error .badValue
    else .ok (codeText (Numeral.value 10 digits))
  | .number true digits => .ok (codeText (Numeral.value 16 digits))
  | .named name =>
    match named? name with
    | some known => .ok known
    | none => .ok (prefixText name (name.length - 1))

/-! ## Whole texts -/

/-- A text with its references replaced; the first `skip` characters belong to a reference that has
been replaced already. -/
def unescapeFrom : (skip : Nat) → List Char → Except Fault (List Char)
  | _, [] => .ok []
  | skip + 1, _ :: cs => unescapeFrom skip cs
  | 0, c :: cs =>
    if c = '&' then
      match reference? cs with
      | some (r, width) => do return (← r.text) ++ (← unescapeFrom width cs)
      | none => do return c :: (← unescapeFrom 0 cs)
    else do return c :: (← unescapeFrom 0 cs)

/-- A text with its character references replaced by what they stand for. -/
def unescape (s : String) : Except Fault String := do
  return String.ofList (← unescapeFrom 0 s.toList)

end Pagewright.Markup
