import Pagewright.Text.Split

/-!
# Pagewright.CommandLine.Path

Paths of files: names from directory to directory.  Empty names and single points mean nothing in a path.
-/

namespace Pagewright.CommandLine

open Text

/-- A path. -/
structure Path where
  fromRoot : Bool
  names : List String
  deriving DecidableEq

namespace Path

/-- The name of the directory above. -/
def up : String := ".."

/-- The path of a text. -/
def ofString (s : String) : Path :=
  let names := (split '/' s.toList).filter fun name => !name.isEmpty && name != ['.']
  ⟨s.toList.head? == some '/', names.map String.ofList⟩

/-- The text of a path; that of the path without names is a point. -/
def text (p : Path) : String :=
  let names := String.intercalate "/" p.names
  if p.fromRoot then "/" ++ names
  else if p.names.isEmpty then "."
  else names

/-- The last name of a path. -/
def name (p : Path) : String := p.names.getLastD ""

/-- The path of the directory. -/
def parent (p : Path) : Path := { p with names := p.names.dropLast }

/-- The path of a name in a directory. -/
def child (p : Path) (name : String) : Path := { p with names := p.names ++ [name] }

/-- A name without what follows its last point, if there is something before and behind that point. -/
def stemOf (name : List Char) : List Char :=
  let behind := (name.reverse.takeWhile (· != '.')).reverse
  let before := (name.take (name.length - behind.length)).dropLast
  if behind.isEmpty || before.isEmpty then name else before

/-- The last name of a path without its suffix. -/
def stem (p : Path) : String := String.ofList (stemOf p.name.toList)

end Path

end Pagewright.CommandLine
