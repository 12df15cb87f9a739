/-!
# Malformed entries

What is kept of an entry that had to be skipped: where it stands and what is wrong with it. Readers
collect these and go on, so that one corrupt entry never invalidates the rest of a file.
-/

namespace MimeDatabase.Record

/-- The place of an entry in its file. -/
inductive Place where
  | line (number : Nat)
  | offset (bytes : Nat)
  deriving DecidableEq, Repr

/-- An entry that was skipped. -/
structure Malformed where
  source : String
  place : Place
  reason : String
  deriving DecidableEq, Repr

/-- The text of the error. -/
def Malformed.message (m : Malformed) : String :=
  match m.place with
  | .line number =>
    "Malformed record in " ++ m.source ++ " line " ++ toString number ++ ": " ++ m.reason
  | .offset bytes =>
    "Malformed magic entry in " ++ m.source ++ " at byte " ++ toString bytes ++ ": " ++ m.reason

end MimeDatabase.Record
