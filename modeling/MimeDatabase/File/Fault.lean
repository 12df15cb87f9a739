import MimeDatabase.Text.Quoted

/-!
# Faults of file operations

Why the operating system refuses an operation on a file.
-/

namespace MimeDatabase

/-- The reason of a refusal. -/
inductive Refusal where
  | notFound
  | alreadyThere
  | notDirectory
  | isDirectory
  | nameTooLong
  deriving DecidableEq, Repr

namespace Refusal

/-- The number of a reason. -/
def code : Refusal → Nat
  | notFound => 2
  | alreadyThere => 17
  | notDirectory => 20
  | isDirectory => 21
  | nameTooLong => 36

/-- The text of a reason. -/
def text : Refusal → String
  | notFound => "No such file or directory"
  | alreadyThere => "File exists"
  | notDirectory => "Not a directory"
  | isDirectory => "Is a directory"
  | nameTooLong => "File name too long"

end Refusal

/-- A refused operation on a path. -/
structure FileFault where
  reason : Refusal
  path : String
  deriving DecidableEq, Repr

/-- The text of the fault. -/
def FileFault.message (f : FileFault) : String :=
  "[Errno " ++ toString f.reason.code ++ "] " ++ f.reason.text ++ ": " ++ Text.quote f.path

/-- Why a file cannot be opened. -/
inductive OpenFault where
  | refused (fault : FileFault)
  /-- The path holds a null character. -/
  | nullCharacter
  deriving DecidableEq, Repr

/-- The text of the fault. -/
def OpenFault.message : OpenFault → String
  | refused f => f.message
  | nullCharacter => "embedded null byte"

end MimeDatabase
