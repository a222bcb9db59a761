import Pagewright.Enrichment.Calendar

/-!
# Pagewright.Enrichment.IsoDate

Reading the date of a moment in ISO 8601 form: a date by month or by week, in the basic or the
extended form, and, after one character of any kind, a time of day with an optional zone.  The time
only has to be readable.  The reader is lenient where a zone follows: whatever stands between a
complete time and the zone is passed over.

Texts are read octet by octet, each octet as the character of its number.
-/

namespace Pagewright.IsoDate

/-- The octets of a text. -/
def octets (s : String) : List Char := s.toUTF8.toList.map fun b => Char.ofNat b.toNat

/-- The number written by the first `n` characters, which must be digits, and what follows. -/
def digits? (n : Nat) (cs : List Char) : Option (Nat × List Char) :=
  let row := cs.take n
  if row.length = n ∧ row.all Char.isDigit then
    some (row.foldl (fun acc c => acc * 10 + (c.toNat - 48)) 0, cs.drop n)
  else none

/-! ## Dates -/

/-- How many characters the date takes, for a text of seven characters or more.  A date by week in the
basic form may or may not name the day; the number of digits that follow tells. -/
def dateLength? (cs : List Char) : Option Nat :=
  let isDigitAt (i : Nat) := cs[i]?.any Char.isDigit
  if cs.length = 7 then some 7
  else if cs[4]? = some '-' then
    if cs[5]? = some 'W' then
      if cs[8]? = some '-' then
        if cs.length = 9 then none else if isDigitAt 10 then some 8 else some 10
      else some 8
    else some 10
  else if cs[4]? = some 'W' then
    let stop := 7 + ((cs.drop 7).takeWhile Char.isDigit).length
    if stop < 9 then some stop else if stop % 2 = 0 then some 7 else some 8
  else some 8

/-- The date at the start of a text, in a form that takes `length` characters. -/
def date? (length : Nat) (cs : List Char) : Option Date := do
  let (year, rest) ← digits? 4 cs
  let extended := rest.head? == some '-'
  let hyphen (cs : List Char) : Option (List Char) :=
    if !extended then some cs
    else match cs with
      | '-' :: rest => some rest
      | _ => none
  let rest ← hyphen rest
  match rest with
  | 'W' :: rest =>
    let (week, rest) ← digits? 2 rest
    if cs.length - rest.length < length then
      let (weekday, _) ← digits? 1 (← hyphen rest)
      Date.ofWeek? year week weekday
    else Date.ofWeek? year week 1
  | _ =>
    let (month, rest) ← digits? 2 rest
    let (day, _) ← digits? 2 (← hyphen rest)
    Date.ofMonth? year month day

/-! ## Times -/

/-- A time of day or an offset, in its parts, and whether something is left behind it. -/
structure Clock where
  hour : Nat
  minute : Nat
  second : Nat
  micro : Nat
  leftover : Bool

/-- A fraction of a second, of which six digits count, and whether something is left behind it. -/
def fraction? (cs : List Char) : Option (Nat × Bool) := do
  let width := min 6 cs.length
  let (n, rest) ← digits? width cs
  return (n * Nat.pow 10 (6 - width), !((rest.dropWhile Char.isDigit).head?.getD '\x00' == '\x00'))

/-- The fields of two digits that are left to read, the separators between them, and the fraction.
`first` says that the separators are not known yet; `colons` what they are. -/
def fields? : (left : Nat) → (first colons : Bool) → List Char → Option (List Nat × Nat × Bool)
  | 0, _, _, cs => do
    let (micro, leftover) ← fraction? cs
    return ([], micro, leftover)
  | left + 1, first, colons, cs => do
    let (n, rest) ← digits? 2 cs
    match rest with
    | [] => return ([n], 0, false)
    | [c] => return ([n], 0, c != '\x00')
    | c :: more =>
      let colons := if first then c == ':' else colons
      if colons && c == ':' then
        let (ns, tail) ← fields? left false colons more
        return (n :: ns, tail)
      else if c == '.' || c == ',' then
        let (micro, leftover) ← fraction? more
        return ([n], micro, leftover)
      else if !colons then
        let (ns, tail) ← fields? left false colons (c :: more)
        return (n :: ns, tail)
      else none

/-- A time of day or an offset that fills a text. -/
def clock? (cs : List Char) : Option Clock := do
  let (ns, micro, leftover) ← fields? 3 true true cs
  return ⟨ns.getD 0 0, ns.getD 1 0, ns.getD 2 0, micro, leftover⟩

/-- Whether a clock shows a time of day. -/
def Clock.isTime (c : Clock) : Bool := c.hour < 24 && c.minute < 60 && c.second < 60

/-- Whether a clock shows an offset of less than a day. -/
def Clock.isOffset (c : Clock) : Bool :=
  (c.hour * 3600 + c.minute * 60 + c.second) * 1000000 + c.micro < 86400 * 1000000

/-- Whether a zone begins with a character: a sign before an offset, or `Z`. -/
def isZoneMark (c : Char) : Bool := c == '+' || c == '-' || c == 'Z'

/-- Whether a zone is readable by its mark and what follows it.  Nothing follows `Z`, and a NUL character
counts as the end of the text. -/
def isZone (mark : Char) (rest : List Char) : Bool :=
  if mark = 'Z' then rest.head?.getD '\x00' == '\x00'
  else (clock? rest).any fun offset => offset.isOffset && !offset.leftover

/-- Whether a text is a time of day with an optional zone. -/
def isTime (cs : List Char) : Bool :=
  match clock? (cs.takeWhile (!isZoneMark ·)), cs.dropWhile (!isZoneMark ·) with
  | some c, [] => c.isTime && !c.leftover
  | some c, mark :: rest => c.isTime && isZone mark rest
  | none, _ => false

/-- The text behind the character between date and time; the octets of one character belong together. -/
def behindSeparator : List Char → List Char
  | [] => []
  | c :: cs =>
    if c.toNat < 0x80 then cs
    else if c.toNat < 0xe0 then cs.drop 1
    else if c.toNat < 0xf0 then cs.drop 2
    else cs.drop 3

/-- The date of a moment. -/
def read? (s : String) : Option Date := do
  let cs := octets s
  if cs.length < 7 then none
  else
    let length ← dateLength? cs
    let date ← date? length cs
    if cs.length ≤ length || isTime (behindSeparator (cs.drop length)) then return date else none

end Pagewright.IsoDate
