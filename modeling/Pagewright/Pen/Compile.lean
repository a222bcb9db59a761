import Pagewright.Json.Reader
import Pagewright.Pen.Document
import Pagewright.Pen.Session
import Pagewright.Rendering
import Pagewright.Settings

/-!
# Pagewright.Pen.Compile

Compiling design documents to HTML and CSS.  The children of the document that are no components are its
pages.  The CSS names the icon fonts, then the variables, then the rules of all nodes.  What is no
document compiles to nothing.
-/

namespace Pagewright.Pen

/-! ## Documents -/

/-- The children of a document that are pages: all objects that are no components. -/
def Document.pages (d : Document) : List Value :=
  d.children.filter fun v => v.members?.any fun ms => !(ms.get "reusable").isTruthy

/-- What a document is drawn with. -/
def Document.context (settings : Settings) (d : Document) : Except Fault Context := do
  let components ← Components.ofNodes d.children
  return ⟨components, ⟨variableDefaults d.vars, settings.penClassPrefix⟩, settings.maxRefDepth⟩

/-- The values of variables that come from outside: none, or an object. -/
def overrideMembers (overrides : Value) : Except Fault Members :=
  if !overrides.isTruthy then .ok []
  else match overrides with
    | .obj ms => .ok ms
    | _ => .error .noMember

/-- The CSS of a document whose pages were drawn in a session. -/
def sheetText (settings : Settings) (vars overrides : Members) (s : Session) : String :=
  let imports := s.fonts.map fun font => "@import url('" ++ font.address ++ "');"
  let values := variableCss vars overrides
  let base := "[class^=\"" ++ settings.penClassPrefix ++ "\"]\x7bbox-sizing:border-box\x7d"
  String.intercalate "\n" (imports ++ [values].filter (!·.isEmpty) ++ base :: s.rules.map Rule.print) ++ "\n"

/-- The HTML and CSS of a document. -/
def Document.compile (settings : Settings) (d : Document) (overrides : Value) :
    Except Fault Rendering := do
  let context ← d.context settings
  let (session, pages) ← (Session.start context (.str "vertical")).drawAll true d.pages
  let overrides ← overrideMembers overrides
  return ⟨Markup.printTrees pages, sheetText settings d.vars overrides session⟩

/-- The HTML and CSS of a datum; there is none unless it is a document that can be compiled. -/
def compile (settings : Settings) (document overrides : Value) : Rendering :=
  match Document.ofValue document with
  | .error _ => .empty
  | .ok d =>
    match d.compile settings overrides with
    | .ok rendering => rendering
    | .error _ => .empty

/-! ## Sources -/

/-- The datum of a text, null if the text is no JSON. -/
def readText (text : String) : Except Fault Value :=
  match Json.read text with
  | .ok v => .ok v
  | .error .malformed => .ok .null
  | .error .tooLong => .error .badValue
  | .error .tooDeep => .error .endless

/-- The datum of a file, null if there is no file, or if it is no text or no JSON. -/
def readFile (contents : Option ByteArray) : Except Fault Value :=
  match contents.bind String.fromUTF8? with
  | some text => readText text
  | none => .ok .null

/-- The HTML and CSS of a document in a text. -/
def compileText (settings : Settings) (text : String) (overrides : Value) : Except Fault Rendering := do
  return compile settings (← readText text) overrides

/-- The HTML and CSS of a document in a file. -/
def compileFile (settings : Settings) (contents : Option ByteArray) (overrides : Value) :
    Except Fault Rendering := do
  return compile settings (← readFile contents) overrides

/-- The variables of a document in a file. -/
def fileVariables (contents : Option ByteArray) : Except Fault Members := do
  return variableTable (← readFile contents)

end Pagewright.Pen
