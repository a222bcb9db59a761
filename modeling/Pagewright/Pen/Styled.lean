import Pagewright.Fault
import Pagewright.Pen.Quantity

/-!
# Pagewright.Pen.Styled

Styles under construction.  The text of a style may fail to come about, and whether it does or not, the
document variables that it mentions on the way are known; they are compared with the variables that the
document declares.
-/

namespace Pagewright.Pen

/-- A result and the variables that were mentioned on the way. -/
structure Styled (α : Type) where
  mentioned : List String
  result : Except Fault α

namespace Styled

instance : Monad Styled where
  pure a := ⟨[], .ok a⟩
  bind x f :=
    match x.result with
    | .ok a => ⟨x.mentioned ++ (f a).mentioned, (f a).result⟩
    | .error e => ⟨x.mentioned, .error e⟩

/-- A result that mentions no variable. -/
def lift {α : Type} (result : Except Fault α) : Styled α := ⟨[], result⟩

instance : MonadLift (Except Fault) Styled := ⟨lift⟩

/-- Mentions a variable. -/
def mention (name : String) : Styled Unit := ⟨[name], .ok ()⟩

/-- The mentioned variables that a document with some variables does not declare, each once.  A document
without variables declares nothing, and nothing is held against it. -/
def undeclared (known mentioned : List String) : List String :=
  if known.isEmpty then []
  else
    (mentioned.filter (!known.contains ·)).foldl
      (fun seen name => if seen.contains name then seen else seen ++ [name]) []

end Styled

/-! ## Values -/

/-- The characters of variable names. -/
def isNameChar (c : Char) : Bool := c.isAlphanum || c == '_' || c == '-'

/-- A text without two hyphens in front, if it has them. -/
def withoutHyphens : List Char → List Char
  | '-' :: '-' :: cs => cs
  | cs => cs

/-- The name of a variable as it is written in CSS. -/
def cssName (name : List Char) : String :=
  String.ofList ((withoutHyphens name).filter isNameChar)

/-- A reference to a variable. -/
def variableText (name : List Char) : Styled String := do
  Styled.mention (cssName name)
  return "var(--" ++ cssName name ++ ")"

/-- A datum in CSS: a reference to a variable if it is a text that begins with a dollar sign, a number,
or a text without the characters that could end a declaration. -/
def valueText : Value → Styled String
  | .null => return ""
  | .str s =>
    match s.toList with
    | '$' :: name => variableText name
    | _ => return trimmed (safeText (.str s))
  | .bool b => return if b then "1" else "0"
  | .int i => return (Binary64.ofInt? i).elim "0" numberText
  | .float x => return numberText x
  | v => return trimmed (safeText v)

/-! ## Colours -/

/-- The number of two digits in base sixteen. -/
def hexPair? (digits : List Char) (index : Nat) : Option Int :=
  Numeral.hex? ((digits.drop (2 * index)).take 2)

/-- A colour of eight digits with its last two as opacity; other digits stay what they are. -/
def rgbaText (color : List Char) : String :=
  let digits := color.dropWhile (· == '#')
  if digits.length ≠ 8 then String.ofList ('#' :: digits)
  else
    match hexPair? digits 0, hexPair? digits 1, hexPair? digits 2, hexPair? digits 3 with
    | some red, some green, some blue, some alpha =>
      let opacity := (Binary64.nearest (decide (alpha < 0)) alpha.natAbs 255).roundPlaces 3
      "rgba(" ++ toString red ++ ", " ++ toString green ++ ", " ++ toString blue ++ ", " ++
        numberText opacity ++ ")"
    | _, _, _, _ => "#" ++ safeText (.str (String.ofList digits))

/-- A datum as a colour: a reference to a variable, or a text; of the colours with a hash, those of three
digits have each digit doubled, and those of eight are written with an opacity. -/
def colorText : Value → Styled String
  | .null => return ""
  | .str s =>
    match s.toList with
    | '$' :: name => variableText name
    | '#' :: digits =>
      if digits.length = 3 then
        return String.ofList ('#' :: digits.flatMap fun c => [c, c])
      else if digits.length = 8 then return rgbaText s.toList
      else return trimmed (safeText (.str s))
    | _ => return trimmed (safeText (.str s))
  | v => return trimmed (safeText v)

/-- The colour that a stroke's fill names, if it names one.  A fill of one colour that does not say which
has the default. -/
def strokeColor? (default : Value) : Value → Styled (Option String)
  | .str s => some <$> colorText (.str s)
  | .obj ms =>
    if ((Members.get? "type" ms).getD (.str "color")).isText "color" then
      some <$> colorText ((Members.get? "color" ms).getD default)
    else return none
  | .list (.str s :: _) => some <$> colorText (.str s)
  | .list (.obj ms :: _) =>
    match Members.get? "color" ms with
    | some color => some <$> colorText color
    | none => return none
  | _ => return none

/-- The colour of a stroke's fill, with a default where it names none. -/
def strokeColor (default : String) (fill : Value) : Styled String := do
  return (← strokeColor? (.str default) fill).getD default

end Pagewright.Pen
