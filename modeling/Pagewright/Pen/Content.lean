import Pagewright.Markup.Tree
import Pagewright.Pen.Typography
import Pagewright.Template.Render

/-!
# Pagewright.Pen.Content

The content of texts.  A reference to a variable inside a text is replaced by the variable's default.  A
text is a string, or a list of runs, each with a type and a fill of its own.
-/

namespace Pagewright.Pen

open Markup

/-- The defaults of variables by name. -/
abbrev Defaults := List (String × String)

/-! ## Variables in texts -/

/-- A text with the references to variables replaced; the first `skip` characters belong to a reference.
What is not declared stays as it is. -/
def substituteFrom (defaults : Defaults) : (skip : Nat) → List Char → List Char
  | _, [] => []
  | skip + 1, _ :: cs => substituteFrom defaults skip cs
  | 0, c :: cs =>
    match c, cs with
    | '$', '-' :: '-' :: rest =>
      let name := rest.takeWhile isNameChar
      match defaults.lookup (String.ofList name) with
      | some text =>
        if name.isEmpty then c :: substituteFrom defaults 0 cs
        else text.toList ++ substituteFrom defaults (name.length + 2) cs
      | none => c :: substituteFrom defaults 0 cs
    | _, _ => c :: substituteFrom defaults 0 cs

/-- A text with the references to variables replaced. -/
def substitute (defaults : Defaults) (s : String) : String :=
  String.ofList (substituteFrom defaults 0 s.toList)

/-- The names of the variables that a text refers to, in order. -/
def references : List Char → List String
  | [] => []
  | c :: cs =>
    match c, cs with
    | '$', '-' :: '-' :: rest =>
      let name := rest.takeWhile isNameChar
      if name.isEmpty then references cs else String.ofList name :: references cs
    | _, _ => references cs

/-! ## Content -/

/-- A text with its line feeds as breaks. -/
def lines (written : List Char) : List Tree :=
  match Text.split '\n' written with
  | [] => []
  | first :: rest =>
    .text (String.ofList first) ::
      rest.flatMap fun line => [.void "br" [], .text (String.ofList ('\n' :: line))]

/-- The address of a record, if it has one. -/
def address? (ms : Members) : Option String :=
  match ms.get "href" with
  | .str s => if s.isEmpty then none else some s
  | _ => none

/-- A run of text. -/
def run (defaults : Defaults) (ms : Members) : Styled Tree := do
  let content := substitute defaults ((ms.get? "content").getD (.str "")).display
  let style := trimmed ((← typography ms) ++ (← textFill (ms.get "fill")))
  let styles := if style.isEmpty then [] else [Attribute.mk "style" (escape style)]
  match address? ms with
  | some href => return .element "a" (⟨"href", escape href⟩ :: styles) [.text (escape content)]
  | none =>
    if style.isEmpty then return .text (escape content)
    else return .element "span" styles [.text (escape content)]

/-- A part of a list of runs: a string, or a record; there is nothing else. -/
def part (defaults : Defaults) : Value → Styled (List Tree)
  | .str s => return [.text (escape (substitute defaults s))]
  | .obj ms => do return [← run defaults ms]
  | _ => return []

/-- The content of a text node.  A raw string is taken over as it is. -/
def content (defaults : Defaults) (raw : Bool) : Value → Styled (List Tree)
  | .null => return []
  | .str s =>
    if s.isEmpty then return []
    else if raw then return [.raw (substitute defaults s)]
    else return lines (escapeChars (substitute defaults s).toList)
  | .list vs => do return (← vs.mapM (part defaults)).flatten
  | v => return [.text v.escaped]

/-! ## Tags -/

/-- The words in the name of a frame that make it a part of the page's outline. -/
def outlineTags : List (String × String) :=
  [ ("header", "header"), ("footer", "footer"), ("nav", "nav"), ("sidebar", "aside"),
    ("section", "section"), ("article", "article"), ("main", "main") ]

/-- The tag of a frame: that of the first word which its name contains. -/
def frameTag (name : Value) : String :=
  let small := (name.orElse (.str "")).display.toList.map Text.lower
  ((outlineTags.find? fun t => Text.occursIn t.1.toList small).map (·.2)).getD "div"

/-- The least sizes of headings, their tags, and whether only bold type counts. -/
def headings : List (Nat × String × Bool) :=
  [(32, "h1", false), (24, "h2", false), (20, "h3", false), (18, "h4", false), (16, "h5", true)]

/-- The tag of a text: a heading by its size and weight, or a paragraph. -/
def textTag (ms : Members) : Except Fault String := do
  match ← number? (ms.get "fontSize") with
  | none => return "p"
  | some size =>
    let weight ← number? ((ms.get? "fontWeight").getD (.str "400"))
    let isBold := (weight.bind Binary64.truncate?).getD 400 ≥ 600
    let isHeading (h : Nat × String × Bool) := !size.less (.ofNat h.1) && (!h.2.2 || isBold)
    return ((headings.find? isHeading).map (·.2.1)).getD "p"

end Pagewright.Pen
