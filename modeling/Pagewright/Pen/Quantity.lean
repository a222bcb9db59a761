import Pagewright.Style.Image
import Pagewright.Style.Quantity
import Pagewright.Value.Display

/-!
# Pagewright.Pen.Quantity

Numbers, texts and addresses of design documents on their way into CSS.  A number may be written as
text; a text loses the characters that could end a declaration or a rule.
-/

namespace Pagewright.Pen

open Text

/-! ## Numbers -/

/-- What follows a decimal number without a sign: digits with an optional point among or behind them,
or a point and digits. -/
def afterMagnitude? (cs : List Char) : Option (List Char) :=
  let rest := cs.dropWhile isDecimal
  if (cs.takeWhile isDecimal).isEmpty then
    match rest with
    | '.' :: c :: more => if isDecimal c then some (more.dropWhile isDecimal) else none
    | _ => none
  else
    match rest with
    | '.' :: more => some (more.dropWhile isDecimal)
    | _ => some rest

/-- What follows an optional exponent. -/
def afterExponent (cs : List Char) : List Char :=
  match cs with
  | e :: more =>
    if e == 'e' || e == 'E' then
      let digits := (Numeral.sign more).2
      if (digits.takeWhile isDecimal).isEmpty then cs else digits.dropWhile isDecimal
    else cs
  | [] => cs

/-- Whether a text is a decimal number with blanks around it. -/
def isNumericText (cs : List Char) : Bool :=
  let cs := cs.dropWhile isBlank
  match afterMagnitude? ((expect? '-' cs).getD cs) with
  | some rest => (afterExponent rest).all isBlank
  | none => false

/-- The number of a datum: that of a finite number, or of a text that is one.  A text that is written
like a number but cannot be read is a fault. -/
def number? : Value → Except Fault (Option Binary64)
  | .int i => .ok (Binary64.ofInt? i)
  | .float x => .ok (if x.isFinite then some x else none)
  | .str s =>
    if isNumericText s.toList then
      match Numeral.real? s.toList with
      | some x => .ok (if x.isFinite then some x else none)
      | none => .error .badValue
    else .ok none
  | _ => .ok none

/-- A number in CSS: what is not finite is zero. -/
def numberText (x : Binary64) : String := if x.isFinite then x.compact else "0"

/-- A datum as a number in CSS.  An integer beyond the range of numbers is zero. -/
def quantityText : Value → Except Fault String
  | .bool b => .ok (if b then "1" else "0")
  | .int i => .ok ((Binary64.ofInt? i).elim "0" numberText)
  | .float x => .ok (numberText x)
  | .str s => (Numeral.real? s.toList).elim (.error .badValue) (.ok ∘ numberText)
  | _ => .error .wrongKind

/-! ## Texts -/

/-- The characters that could end a declaration, a rule or the sheet. -/
def isUnsafe (c : Char) : Bool :=
  c == ';' || c == '\x7b' || c == '\x7d' || c == '<' || c == '>'

/-- A datum as text without the characters that could end a declaration. -/
def safeText (v : Value) : String := String.ofList (v.display.toList.filter (!isUnsafe ·))

/-- The characters that an address must not contain. -/
def isOutsideAddress (c : Char) : Bool :=
  isBlank c || c == '\'' || c == '"' || c == '(' || c == ')' || c == '\\' || c == '<' || c == '>'

/-- Whether an address names script. -/
def isScriptAddress (cs : List Char) : Bool :=
  (afterCaseless? "javascript:".toList cs).isSome || (afterCaseless? "vbscript:".toList cs).isSome

/-- A datum as an address: without quotes, brackets, blanks and markup characters, and empty if it names
script or data that is no image. -/
def addressText (v : Value) : String :=
  let cs := ((v.orElse (.str "")).display.toList).filter (!isOutsideAddress ·)
  if isScriptAddress cs || Style.isForeignData cs then "" else String.ofList cs

/-! ## Sizes with a fallback -/

/-- A number in round brackets at the start of a text: digits and an optional fraction. -/
def bracketed? : List Char → Option (List Char)
  | '(' :: cs =>
    let whole := cs.takeWhile isDecimal
    if whole.isEmpty then none
    else
      match cs.dropWhile isDecimal with
      | ')' :: _ => some whole
      | '.' :: more =>
        let part := more.takeWhile isDecimal
        match part.isEmpty, more.dropWhile isDecimal with
        | false, ')' :: _ => some (whole ++ '.' :: part)
        | _, _ => none
      | _ => none
  | _ => none

/-- The first number in round brackets in a text. -/
def fallback? : List Char → Option Binary64
  | [] => none
  | c :: cs =>
    match bracketed? (c :: cs) with
    | some digits => Numeral.real? digits
    | none => fallback? cs

end Pagewright.Pen
