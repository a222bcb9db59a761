import Pagewright.Number.Numeral
import Pagewright.Text.Surrogate
import Pagewright.Value.Basic

/-!
# Pagewright.Json.Token

The lexical part of JSON text: brackets, commas, colons, texts, numbers and the constant words, three
of which stand for numbers that are not finite.  `tokens` never fails.  Where no token can be read
it ends with the token `bad`, so that a reader meets the trouble only when it gets there.
-/

namespace Pagewright.Json

/-- A lexical element of JSON text. -/
inductive Token where
  | openList
  | closeList
  | openObject
  | closeObject
  | comma
  | colon
  | text (s : String)
  | scalar (v : Value)
  /-- An integer with more digits than are read. -/
  | tooLong
  /-- Something that is no token. -/
  | bad

/-- The white space between tokens. -/
def isSpace (c : Char) : Bool := c == ' ' || c == '\t' || c == '\n' || c == '\r'

/-! ## Texts -/

private def hexValue? (c : Char) : Option Nat :=
  if c.isDigit then some (c.toNat - 48)
  else if 'a' ≤ c && c ≤ 'f' then some (c.toNat - 87)
  else if 'A' ≤ c && c ≤ 'F' then some (c.toNat - 55)
  else none

/-- The number written by four hexadecimal digits. -/
def unit? (a b c d : Char) : Option Nat := do
  return (((← hexValue? a) * 16 + (← hexValue? b)) * 16 + (← hexValue? c)) * 16 + (← hexValue? d)

/-- The character that a letter after a backslash stands for. -/
def escaped? : Char → Option Char
  | '"' => some '"'
  | '\\' => some '\\'
  | '/' => some '/'
  | 'b' => some '\x08'
  | 'f' => some '\x0c'
  | 'n' => some '\n'
  | 'r' => some '\r'
  | 't' => some '\t'
  | _ => none

/-- The character written by a surrogate pair. -/
def pair? (high low : Nat) : Option Char :=
  if 0xd800 ≤ high && high ≤ 0xdbff && 0xdc00 ≤ low && low ≤ 0xdfff then
    some (Char.ofNat (0x10000 + (high - 0xd800) * 0x400 + (low - 0xdc00)))
  else none

/-- One character of a text: what it stands for, and how many characters write it.  Half of a surrogate pair that
has no other half behind it stands alone. -/
def character? : List Char → Option (Char × Nat)
  | '\\' :: 'u' :: a :: b :: c :: d :: rest => do
    let high ← unit? a b c d
    let joined := match rest with
      | '\\' :: 'u' :: e :: f :: g :: h :: _ => (unit? e f g h).bind (pair? high)
      | _ => none
    return match joined with
      | some c => (c, 12)
      | none => (Text.ofCodePoint high, 6)
  | '\\' :: c :: _ => (escaped? c).map (·, 2)
  | '\\' :: [] => none
  | c :: _ => if c.toNat < 32 then none else some (c, 1)
  | [] => none

/-- The rest of a text after its opening quote, and what follows the closing one.  The first
argument counts the characters that belong to the character read before. -/
def text? : (skip : Nat) → List Char → Option (List Char × List Char)
  | _, [] => none
  | skip + 1, _ :: cs => text? skip cs
  | 0, '"' :: cs => some ([], cs)
  | 0, c :: cs => do
    let (read, width) ← character? (c :: cs)
    let (s, rest) ← text? (width - 1) cs
    return (read :: s, rest)

/-! ## Numbers -/

/-- The optional fraction of a number, its digits, and what follows. -/
def fraction (cs : List Char) : Option (List Char) × List Char :=
  match cs with
  | '.' :: c :: more =>
    if c.isDigit then
      (some ((c :: more).takeWhile Char.isDigit), (c :: more).dropWhile Char.isDigit)
    else (none, cs)
  | _ => (none, cs)

/-- The optional exponent of a number, and what follows. -/
def exponent (cs : List Char) : Option Int × List Char :=
  match cs with
  | e :: more =>
    if e == 'e' || e == 'E' then
      let (negative, body) := Numeral.sign more
      let digits := body.takeWhile Char.isDigit
      if digits.isEmpty then (none, cs)
      else
        let n : Int := Numeral.value 10 digits
        (some (if negative then -n else n), body.dropWhile Char.isDigit)
    else (none, cs)
  | [] => (none, cs)

/-- A number without its sign, and what follows. -/
def number? (negative : Bool) (cs : List Char) : Option (Token × List Char) :=
  let whole := match cs with
    | '0' :: _ => ['0']
    | _ => cs.takeWhile Char.isDigit
  if whole.isEmpty then none
  else
    let rest := cs.drop whole.length
    let (part, rest) := fraction rest
    let (power, rest) := exponent rest
    match part, power with
    | none, none =>
      let n : Int := Numeral.value 10 whole
      let token := if Numeral.digitLimit < whole.length then Token.tooLong
        else .scalar (.int (if negative then -n else n))
      some (token, rest)
    | _, _ =>
      let digits := whole ++ part.getD []
      let x := Binary64.ofDecimal negative (Numeral.value 10 digits)
        (power.getD 0 - (part.getD []).length)
      some (.scalar (.float x), rest)

/-! ## All tokens -/

/-- The constant words. -/
def constants : List (List Char × Value) :=
  [ (['n', 'u', 'l', 'l'], .null), (['t', 'r', 'u', 'e'], .bool true),
    (['f', 'a', 'l', 's', 'e'], .bool false), (['N', 'a', 'N'], .float .nan),
    (['I', 'n', 'f', 'i', 'n', 'i', 't', 'y'], .float (.infinite false)),
    (['-', 'I', 'n', 'f', 'i', 'n', 'i', 't', 'y'], .float (.infinite true)) ]

/-- The token of a constant word or a number, and what follows. -/
def scalar? (cs : List Char) : Option (Token × List Char) :=
  (constants.findSome? fun w => (Text.after? w.1 cs).map (Token.scalar w.2, ·)) <|>
    match cs with
    | '-' :: rest => number? true rest
    | _ => number? false cs

/-- The token at the start of a text that does not begin with a space, and what follows. -/
def next? : List Char → Option (Token × List Char)
  | [] => none
  | '[' :: cs => some (.openList, cs)
  | ']' :: cs => some (.closeList, cs)
  | '\x7b' :: cs => some (.openObject, cs)
  | '\x7d' :: cs => some (.closeObject, cs)
  | ',' :: cs => some (.comma, cs)
  | ':' :: cs => some (.colon, cs)
  | '"' :: cs => (text? 0 cs).map fun (s, rest) => (.text (String.ofList s), rest)
  | cs => scalar? cs

/-- The tokens of a text, at most `fuel` of them. -/
def tokensUpTo : (fuel : Nat) → List Char → List Token
  | 0, _ => []
  | fuel + 1, cs =>
    match cs.dropWhile isSpace with
    | [] => []
    | c :: rest =>
      match next? (c :: rest) with
      | none => [.bad]
      | some (token, more) => token :: tokensUpTo fuel more

/-- The tokens of a text.  Every token takes a character at least, so there are no more than
characters. -/
def tokens (cs : List Char) : List Token := tokensUpTo cs.length cs

end Pagewright.Json
