import Pagewright.CommandLine.Path
import Pagewright.Fault
import Pagewright.Text.Surrogate

/-!
# Pagewright.CommandLine.FileTree

The files of a system.  A directory is there when it was made, when a file is in it, or when the working
directory is it or lies in it.  The directory above the root is the root.
-/

namespace Pagewright.CommandLine

/-- Names from the root down to a file or a directory. -/
abbrev Location := List String

/-- The files of a system, the directories that were made, and the directory at which paths start. -/
structure FileTree where
  files : List (Location × ByteArray)
  made : List Location := []
  workingDirectory : Location := []

/-- What stands at a path. -/
inductive Found where
  | file (location : Location) (contents : ByteArray)
  | directory (location : Location)
  | nothing
  | behindFile

namespace FileTree

/-- The contents of the file at a location. -/
def contents? (t : FileTree) (location : Location) : Option ByteArray := t.files.lookup location

/-- Whether there is a directory at a location. -/
def hasDirectory (t : FileTree) (location : Location) : Bool :=
  location.isPrefixOf t.workingDirectory || t.made.contains location ||
    t.files.any fun (file, _) => location.isPrefixOf file && location != file

/-- What stands at the end of some names, from a directory on. -/
def findFrom (t : FileTree) (directory : Location) : List String → Found
  | [] => .directory directory
  | name :: rest =>
    if name = Path.up then t.findFrom directory.dropLast rest
    else
      let location := directory ++ [name]
      match t.contents? location with
      | some contents => if rest.isEmpty then .file location contents else .behindFile
      | none => if t.hasDirectory location then t.findFrom location rest else .nothing

/-- The directory at which a path starts. -/
def start (t : FileTree) (p : Path) : Location := if p.fromRoot then [] else t.workingDirectory

/-- What stands at a path. -/
def find (t : FileTree) (p : Path) : Found := t.findFrom (t.start p) p.names

/-- The contents of the file at a path, if there is one.  A null character is no part of a path. -/
def read (t : FileTree) (p : Path) : Except Fault (Option ByteArray) :=
  if p.names.any (·.toList.contains '\x00') then .error .badValue
  else match t.find p with
    | .file _ contents => .ok (some contents)
    | _ => .ok none

/-- The greatest number of octets in the name of a file or a directory. -/
def nameLimit : Nat := 255

/-- Whether a name is too long for a file or a directory. -/
def isTooLong (name : String) : Bool := nameLimit < Text.nameOctets name.toList

/-- The tree after a directory was made. -/
def make (t : FileTree) (location : Location) : FileTree := { t with made := t.made ++ [location] }

/-- The tree after the directories at the end of some names, from a directory on, were made that were not
there, and the location of the last one.  Directories are made one by one, so a file in the place of one
that has to be made is met as such, and a file on the way to one that is there is not. -/
def makeFrom (t : FileTree) (hasMade : Bool) (directory : Location) :
    List String → Except Fault (FileTree × Location)
  | [] => .ok (t, directory)
  | name :: rest =>
    if name = Path.up then t.makeFrom hasMade directory.dropLast rest
    else
      let location := directory ++ [name]
      match t.contents? location with
      | some _ => .error (if rest.isEmpty || hasMade then .alreadyExists else .notDirectory)
      | none =>
        if t.hasDirectory location then t.makeFrom hasMade location rest
        else if isTooLong name then .error .nameTooLong
        else (t.make location).makeFrom true location rest

/-- The tree after the directory at a path was made, and the location of the directory. -/
def makeDirectory (t : FileTree) (p : Path) : Except Fault (FileTree × Location) :=
  if p.names.any (·.toList.contains '\x00') then .error .badValue
  else t.makeFrom false (t.start p) p.names

/-- The tree with new contents of a file. -/
def put (t : FileTree) (location : Location) (contents : ByteArray) : FileTree :=
  { t with files := t.files.filter (·.1 != location) ++ [(location, contents)] }

/-- The tree after a text was written to a file in a directory, and the fault that prevented it, if one did.
The file is there, and empty, before the text is encoded: a text that has no octets leaves it so. -/
def write (t : FileTree) (directory : Location) (name text : String) : FileTree × Option Fault :=
  let location := directory ++ [name]
  if t.hasDirectory location then (t, some .isDirectory)
  else if isTooLong name then (t, some .nameTooLong)
  else match Text.encode? text with
    | some contents => (t.put location contents, none)
    | none => (t.put location ByteArray.empty, some .notEncodable)

/-- The files of a tree that are not in another tree, or have other contents there. -/
def changes (t before : FileTree) : List (Location × ByteArray) :=
  t.files.filter fun (location, contents) => before.contents? location != some contents

end FileTree

end Pagewright.CommandLine
