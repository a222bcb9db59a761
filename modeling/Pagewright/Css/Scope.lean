import Pagewright.Css.Sheet

/-!
# Pagewright.Css.Scope

Confining CSS to one container.  Every selector of every rule, at any depth of grouping, is put behind
the selector of the container, unless it stands there already.  Declarations without a selector become
a rule for the container itself.  At-rules that do not group rules have no selectors and are left
alone.
-/

namespace Pagewright.Css

open Text

/-! ## Selectors -/

/-- The parts of a selector list between the commas outside round and square brackets.  `depth` counts
the open brackets. -/
def selectorsFrom : (depth : Nat) → List Char → List (List Char)
  | _, [] => [[]]
  | depth, c :: cs =>
    if c = ',' ∧ depth = 0 then [] :: selectorsFrom 0 cs
    else
      let depth :=
        if c = '(' ∨ c = '[' then depth + 1
        else if c = ')' ∨ c = ']' then depth - 1
        else depth
      match selectorsFrom depth cs with
      | [] => [[c]]
      | part :: rest => (c :: part) :: rest

/-- The selectors of a list, without the blanks around them; empty ones are left out. -/
def selectors (cs : List Char) : List (List Char) :=
  ((selectorsFrom 0 cs).map trim).filter (!·.isEmpty)

/-- Whether a selector is the scope itself or selects inside it: it continues the scope with a blank
and does not turn to the siblings of the container. -/
def withinScope (scope selector : List Char) : Bool :=
  match after? scope selector with
  | none => false
  | some [] => true
  | some (c :: rest) =>
    isBlank c &&
      match trimStart rest with
      | '+' :: _ => false
      | '~' :: _ => false
      | _ => true

/-- A selector put into the scope. -/
def scopeSelector (scope selector : List Char) : List Char :=
  if withinScope scope selector then selector else scope ++ ' ' :: selector

/-- A selector list put into the scope; an empty one selects the container. -/
def scopeSelectors (scope cs : List Char) : List Char :=
  match selectors cs with
  | [] => scope
  | ss => join [',', ' '] (ss.map (scopeSelector scope))

/-! ## Sheets -/

/-- A rule whose selectors are put into the scope. -/
def scopeRule (scope block : List Char) : List Char :=
  scopeSelectors scope (splitBlock block).1 ++ block.dropWhile (· != '\x7b')

/-- Whether a part is a declaration without a selector. -/
def Part.isBare : Part → Bool
  | .item .statement ('@' :: _) => false
  | .item .trailing ('@' :: _) => false
  | .item .statement _ => true
  | .item .trailing _ => true
  | _ => false

/-- The declarations without a selector. -/
def bareTexts : List Part → List (List Char)
  | [] => []
  | .item kind text :: ps =>
    if (Part.item kind text).isBare then text :: bareTexts ps else bareTexts ps
  | _ :: ps => bareTexts ps

/-- The rule that the declarations without a selector become. -/
def bareRule (scope : List Char) (ps : List Part) : List (List Char) :=
  match bareTexts ps with
  | [] => []
  | texts => [scope ++ '\x7b' :: join [' '] texts ++ ['\x7d']]

mutual

/-- The rules that a part becomes inside the scope. -/
def Part.inScope (scope : List Char) : Part → List (List Char)
  | .group header inner =>
    let body := join ['\n'] (scopedParts scope inner ++ bareRule scope inner)
    [header ++ '\x7b' :: body ++ ['\x7d']]
  | .item kind text =>
    match kind with
    | .unclosed => []
    | .block => [if (atRuleName text).isEmpty then scopeRule scope text else text]
    | _ => if (Part.item kind text).isBare then [] else [text]

/-- The rules that parts become inside the scope. -/
def scopedParts (scope : List Char) : List Part → List (List Char)
  | [] => []
  | p :: ps => p.inScope scope ++ scopedParts scope ps

end

/-- CSS confined to a scope. -/
def scopeChars (scope css : List Char) : List Char :=
  let ps := parts (trim css)
  join ['\n'] (scopedParts scope ps ++ bareRule scope ps)

/-- CSS confined to a scope. -/
def scope (css scope : String) : String :=
  String.ofList (scopeChars scope.toList css.toList)

end Pagewright.Css
