import Pagewright.CommandLine.Run

/-!
# Pagewright.Main

The command line on the files of the system.
-/

namespace Pagewright.CommandLine

/-- The contents of a file of the system, if it can be read. -/
def readSystemFile (p : Path) : IO (Option ByteArray) := do
  try
    return some (← IO.FS.readBinFile p.text)
  catch _ => return none

/-- The octets of a text, or a failure if it has none. -/
def octets (text : String) : IO ByteArray :=
  match Text.encode? text with
  | some contents => return contents
  | none => throw (IO.userError "the text has no form in UTF-8")

/-- Writes a text to a file of the system, which is emptied even if the text has no octets. -/
def writeSystemFile (p : Path) (text : String) : IO Unit := do
  IO.FS.writeBinFile p.text ByteArray.empty
  IO.FS.writeBinFile p.text (← octets text)

/-- Writes files of the system. -/
def writeSystemFiles (f : Files) : IO Unit := do
  IO.FS.createDirAll f.directory.text
  writeSystemFile (f.directory.child f.htmlName) f.rendering.html
  writeSystemFile (f.directory.child f.cssName) f.rendering.css

/-- Runs the command line and gives its status. -/
def runOnSystem (arguments : List String) : IO Nat := do
  match Request.ofArguments arguments with
  | .error refusal =>
    (← IO.getStderr).putStr (usage ++ refusal.message ++ "\n")
    return refused
  | .ok .help =>
    (← IO.getStdout).putStr usage
    return success
  | .ok (.run document a) =>
    let path := Path.ofString document
    match outcome path a (.ok (← readSystemFile path)) with
    | .error _ =>
      (← IO.getStderr).putStr "the document cannot be read\n"
      return nothingDone
    | .ok o =>
      (← IO.getStdout).write (← octets o.shown)
      match o.files with
      | some files => writeSystemFiles files
      | none => pure ()
      return o.status

end Pagewright.CommandLine

def main (arguments : List String) : IO UInt32 := do
  return (← Pagewright.CommandLine.runOnSystem arguments).toUInt32
