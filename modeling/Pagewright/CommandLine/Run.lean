import Pagewright.CommandLine.Arguments
import Pagewright.CommandLine.FileTree
import Pagewright.Json.Writer
import Pagewright.Pen.Compile

/-!
# Pagewright.CommandLine.Run

What the command line does: it compiles a document to an HTML file and a CSS file, or lists the variables
of the document.  A document that compiles to nothing leaves all files as they are.
-/

namespace Pagewright.CommandLine

/-! ## Overrides -/

/-- A name and a value with an equals sign between them. -/
def assignment? (item : String) : Option (String × String) := do
  let (name, value) ← Text.cut? '=' item.toList
  let name := trimmed (String.ofList name)
  if name.isEmpty then none
  return (name, trimmed (String.ofList value))

/-- The values of variables that items assign; other items assign nothing. -/
def overridesOf (items : List String) : Members :=
  Members.ofList ((items.filterMap assignment?).map fun (name, value) => (name, .str value))

/-- The items of options; an option without its value has none. -/
def itemsOf (values : List (Option String)) : Except Fault (List String) :=
  values.mapM fun value => match value with
    | some item => .ok item
    | none => .error .noMember

/-! ## Outcomes -/

/-- Two files with one stem in a directory. -/
structure Files where
  directory : Path
  stem : String
  rendering : Rendering

/-- The name of the HTML file. -/
def Files.htmlName (f : Files) : String := f.stem ++ ".html"

/-- The name of the CSS file. -/
def Files.cssName (f : Files) : String := f.stem ++ ".css"

/-- What the command line comes to: a status, what is shown, and files to be written. -/
structure Outcome where
  status : Nat
  shown : String := ""
  files : Option Files := none

/-- The status when all went well. -/
def success : Nat := 0

/-- The status when there was nothing to show or to write. -/
def nothingDone : Nat := 1

/-- The status when the arguments are refused. -/
def refused : Nat := 2

/-- How the program is used. -/
def usage : String :=
  "usage: pagewright [-h] [-o DIR] [--override NAME=VALUE] [--variables] [-v] document\n"

/-- The directory of the files: the one that is asked for, or that of the document. -/
def outDirectory (document : Path) (a : Arguments) : Path :=
  match a.outDir with
  | some dir => if dir.isEmpty then document.parent else .ofString dir
  | none => document.parent

/-- The outcome for a document whose contents are yet to be read. -/
def outcome (document : Path) (a : Arguments) (read : Except Fault (Option ByteArray)) :
    Except Fault Outcome := do
  if a.listsVariables then
    let table ← Pen.fileVariables (← read)
    return ⟨if table.isEmpty then nothingDone else success,
      Json.writeIndented (.obj table) ++ "\n", none⟩
  else
    let items ← itemsOf a.overrides
    let rendering ← Pen.compileFile {} (← read) (.obj (overridesOf items))
    if rendering.isEmpty then return ⟨nothingDone, "", none⟩
    else return ⟨success, "", some ⟨outDirectory document a, document.stem, rendering⟩⟩

/-! ## Running on a tree of files -/

/-- The tree after files were written, and the fault that prevented it, if one did. -/
def writeFiles (t : FileTree) (f : Files) : FileTree × Option Fault :=
  match t.makeDirectory f.directory with
  | .error e => (t, some e)
  | .ok (t, directory) =>
    match t.write directory f.htmlName f.rendering.html with
    | (t, some e) => (t, some e)
    | (t, none) => t.write directory f.cssName f.rendering.css

/-- What is seen of a run: a status with what is shown, or a fault. -/
abbrev Reply := Except Fault (Nat × String)

/-- The tree after a run, and its reply. -/
def run (arguments : List String) (t : FileTree) : FileTree × Reply :=
  match Request.ofArguments arguments with
  | .error _ => (t, .ok (refused, ""))
  | .ok .help => (t, .ok (success, usage))
  | .ok (.run document a) =>
    let path := Path.ofString document
    match outcome path a (t.read path) with
    | .error e => (t, .error e)
    | .ok o =>
      match o.files with
      | none => (t, .ok (o.status, o.shown))
      | some files =>
        match writeFiles t files with
        | (t, none) => (t, .ok (o.status, o.shown))
        | (t, some e) => (t, .error e)

end Pagewright.CommandLine
