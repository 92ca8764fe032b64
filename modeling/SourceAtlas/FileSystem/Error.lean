import SourceAtlas.Text.Quoted

/-!
# Why a file operation fails

An operation on a path fails for one of a few reasons.  All but one are reported with a number, the
reason in words and the path; a path that holds a null character is no path at all.
-/

namespace SourceAtlas

/-- The reasons why an operation on a path fails. -/
inductive Reason
  | missing
  | present
  | notDirectory
  | isDirectory
  | nameTooLong
  | tooManyLinks
  | nullCharacter
  deriving DecidableEq, Repr

namespace Reason

/-- The number of a reason. -/
def number : Reason → Nat
  | .missing => 2
  | .present => 17
  | .notDirectory => 20
  | .isDirectory => 21
  | .nameTooLong => 36
  | .tooManyLinks => 40
  | .nullCharacter => 0

/-- The reason in words. -/
def message : Reason → Text
  | .missing => "No such file or directory".toList
  | .present => "File exists".toList
  | .notDirectory => "Not a directory".toList
  | .isDirectory => "Is a directory".toList
  | .nameTooLong => "File name too long".toList
  | .tooManyLinks => "Too many levels of symbolic links".toList
  | .nullCharacter => "embedded null byte".toList

end Reason

/-- A failed operation: why, and on which path. -/
structure FileError where
  reason : Reason
  path : Text
  deriving DecidableEq, Repr

/-- The failure in words. -/
def FileError.message (e : FileError) : Text :=
  match e.reason with
  | .nullCharacter => e.reason.message
  | r =>
    "[Errno ".toList ++ Text.ofNat r.number ++ "] ".toList ++ r.message ++ ": ".toList ++
      Text.quoted e.path

end SourceAtlas
