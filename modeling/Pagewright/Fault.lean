/-!
# Pagewright.Fault

Why an operation has no result.  Operations that read data of unknown shape say which kind of
trouble they met; the wording is left to whoever reports it.
-/

namespace Pagewright

/-- A cause of failure. -/
inductive Fault where
  /-- A datum of a kind that the operation is not made for. -/
  | wrongKind
  /-- A datum of the right kind that stands for nothing, such as a word where a number is read. -/
  | badValue
  /-- A member was asked of something that is not an object. -/
  | noMember
  /-- An object lacks a member that is needed. -/
  | missingKey
  /-- A number is too large for its place. -/
  | overflow
  /-- The operation would never end, or goes deeper than it can. -/
  | endless
  /-- A source outside the library failed, with its own message. -/
  | unavailable (message : String)
  /-- A file stands where a directory is needed. -/
  | alreadyExists
  /-- A file stands on the way to a file. -/
  | notDirectory
  /-- A directory stands where a file is needed. -/
  | isDirectory
  /-- No file and no directory can have a name of that length. -/
  | nameTooLong
  /-- A text has no octets in the encoding of a file. -/
  | notEncodable
  deriving DecidableEq, Repr

end Pagewright
