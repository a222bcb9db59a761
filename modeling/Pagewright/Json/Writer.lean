import Pagewright.Number.Decimal
import Pagewright.Text.Quoted
import Pagewright.Value.Basic

/-!
# Pagewright.Json.Writer

Writing JSON text, on one line or with every item and member on a line of its own.  Characters
outside ASCII stand for themselves, and numbers that are not finite are written as words.
-/

namespace Pagewright.Json

/-- A character inside a JSON text. -/
def writeChar (c : Char) : List Char :=
  if c == '"' || c == '\\' then ['\\', c]
  else if c == '\n' then ['\\', 'n']
  else if c == '\r' then ['\\', 'r']
  else if c == '\t' then ['\\', 't']
  else if c == '\x08' then ['\\', 'b']
  else if c == '\x0c' then ['\\', 'f']
  else if c.toNat < 32 then '\\' :: 'u' :: Text.hexDigits 4 c.toNat
  else [c]

/-- A JSON text in its quotes. -/
def writeText (s : String) : String :=
  "\"" ++ String.ofList (s.toList.flatMap writeChar) ++ "\""

/-- A number; infinities and not-a-number have words of their own. -/
def writeFloat : Binary64 → String
  | .nan => "NaN"
  | .infinite false => "Infinity"
  | .infinite true => "-Infinity"
  | x => x.text

/-- Where the parts of a container go: on the same line, or on lines indented by a number of blanks
for every level. -/
structure Layout where
  indent : Option Nat
  deriving DecidableEq

/-- The space in front of a part at a level. -/
def Layout.lineBreak (layout : Layout) (level : Nat) : String :=
  match layout.indent with
  | none => ""
  | some n => "\n" ++ String.ofList (List.replicate (n * level) ' ')

/-- The space behind a comma on one line. -/
def Layout.separator (layout : Layout) : String := if layout.indent.isSome then "," else ", "

mutual

/-- A value at a level of nesting. -/
def write (layout : Layout) (level : Nat) : Value → String
  | .null => "null"
  | .bool b => if b then "true" else "false"
  | .int i => toString i
  | .float x => writeFloat x
  | .str s => writeText s
  | .list [] => "[]"
  | .list vs =>
    "[" ++ String.intercalate layout.separator (writeItems layout (level + 1) vs) ++
      layout.lineBreak level ++ "]"
  | .obj [] => "\x7b\x7d"
  | .obj ms =>
    "\x7b" ++ String.intercalate layout.separator (writeMembers layout (level + 1) ms) ++
      layout.lineBreak level ++ "\x7d"

/-- The items of a list, each with the space in front of it. -/
def writeItems (layout : Layout) (level : Nat) : List Value → List String
  | [] => []
  | v :: vs => (layout.lineBreak level ++ write layout level v) :: writeItems layout level vs

/-- The members of an object, each with the space in front of it. -/
def writeMembers (layout : Layout) (level : Nat) : List (String × Value) → List String
  | [] => []
  | (k, v) :: ms =>
    (layout.lineBreak level ++ writeText k ++ ": " ++ write layout level v) ::
      writeMembers layout level ms

end

/-- A value on one line. -/
def writeCompact (v : Value) : String := write ⟨none⟩ 0 v

/-- A value with two blanks for every level. -/
def writeIndented (v : Value) : String := write ⟨some 2⟩ 0 v

end Pagewright.Json
