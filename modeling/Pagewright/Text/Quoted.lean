import Pagewright.Text.Printable
import Pagewright.Text.Surrogate

/-!
# Pagewright.Text.Quoted

Texts in quotes.  The quotes are single ones, unless the text holds single quotes and no double ones.
The quote itself and the backslash are escaped by a backslash, line feed, carriage return and tab by
a letter, and what is not printable by its code point in two, four or eight hexadecimal digits.
-/

namespace Pagewright.Text

/-- A number in at least `width` hexadecimal digits. -/
def hexDigits (width n : Nat) : List Char :=
  let digits := Nat.toDigits 16 n
  List.replicate (width - digits.length) '0' ++ digits

/-- A character inside quotes. -/
def quoteChar (quote c : Char) : List Char :=
  if c == quote || c == '\\' then ['\\', c]
  else if c == '\n' then ['\\', 'n']
  else if c == '\r' then ['\\', 'r']
  else if c == '\t' then ['\\', 't']
  else if isPrintable c then [c]
  else
    let n := codePoint c
    if n < 0x100 then '\\' :: 'x' :: hexDigits 2 n
    else if n < 0x10000 then '\\' :: 'u' :: hexDigits 4 n
    else '\\' :: 'U' :: hexDigits 8 n

/-- A text in quotes. -/
def quoted (cs : List Char) : List Char :=
  let quote := if cs.contains '\'' && !cs.contains '"' then '"' else '\''
  quote :: cs.flatMap (quoteChar quote) ++ [quote]

end Pagewright.Text
