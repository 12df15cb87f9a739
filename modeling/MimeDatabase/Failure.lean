import MimeDatabase.Config.Value

/-!
# Failures

The errors that the library raises, as its callers see them: a kind, a message, and named details. A
malformed entry always has a source and a reason, if only the usual ones.
-/

namespace MimeDatabase

/-- The kind of a failure. -/
inductive Failure.Kind where
  /-- None of the others. -/
  | general
  | malformedEntry
  | databaseUnavailable
  | config
  deriving DecidableEq, Repr

/-- A failure. -/
structure Failure where
  kind : Failure.Kind
  message : String
  context : Table
  deriving Repr

namespace Failure

/-- The source of a malformed entry. -/
def source (f : Failure) : Value := (f.context.get? "source").getD (.text "<memory>")

/-- What is wrong with a malformed entry. -/
def reason (f : Failure) : Value := (f.context.get? "reason").getD (.text f.message)

end Failure

end MimeDatabase
