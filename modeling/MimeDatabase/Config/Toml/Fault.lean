/-!
# Faults of a TOML document

A document that breaks a rule is malformed. Beside the rules there are documents on which reading
breaks off: a look beyond the end of a text or list, an entry below a value that has none, a number
out of all range. These are told apart, each with a text of its own.
-/

namespace MimeDatabase.Toml

/-- The kind of a value, as far as texts of faults name it. -/
inductive Kind where
  | bool
  | int
  | float
  | text
  | date
  | dateTime
  | time
  | list
  | table
  | inlineTable
  deriving DecidableEq, Repr

/-- What a kind is called in texts of faults. -/
def Kind.name : Kind → String
  | bool => "bool"
  | int => "int"
  | float => "float"
  | text => "str"
  | date => "datetime.date"
  | dateTime => "datetime.datetime"
  | time => "datetime.time"
  | list => "list"
  | table => "dict"
  | inlineTable => "DynamicInlineTableDict"

/-- Why reading breaks off. -/
inductive Breakdown where
  /-- A look beyond the end of a list, or of the document. -/
  | pastList
  /-- A look beyond the end of a text. -/
  | pastText
  /-- An entry is looked for in a value that has none. -/
  | noEntries (kind : Kind)
  /-- A key is looked for in a value that holds nothing. -/
  | noKeys (kind : Kind)
  /-- A table is put into a text. -/
  | textAssignment
  /-- An entry of a text is looked for by a key. -/
  | textKey
  /-- An entry of a list is looked for by a key. -/
  | listKey
  /-- A table is appended to a value that is no list. -/
  | noAppending (kind : Kind)
  /-- A text over several lines has the empty key. -/
  | noKey
  /-- The fraction of a second has too many digits. -/
  | fractionTooLarge
  /-- The code of a character does not fit into 32 bits with a sign. -/
  | codeTooLarge
  /-- Values lie too deep in each other. -/
  | tooDeep
  deriving DecidableEq, Repr

/-- The text of a breakdown. -/
def Breakdown.message : Breakdown → String
  | pastList => "list index out of range"
  | pastText => "string index out of range"
  | noEntries kind => "'" ++ kind.name ++ "' object is not subscriptable"
  | noKeys kind => "argument of type '" ++ kind.name ++ "' is not iterable"
  | textAssignment => "'str' object does not support item assignment"
  | textKey => "string indices must be integers, not 'str'"
  | listKey => "list indices must be integers or slices, not str"
  | noAppending kind => "'" ++ kind.name ++ "' object has no attribute 'append'"
  | noKey => "cannot access local variable 'value' where it is not associated with a value"
  | fractionTooLarge => "int too large to convert to float"
  | codeTooLarge => "Python int too large to convert to C int"
  | tooDeep => "maximum recursion depth exceeded in comparison"

/-- Why a document cannot be read. -/
inductive Fault where
  /-- A string is not closed on its line, or a long one not at all. -/
  | openString
  | badKey
  | badHeader
  | badValue
  | badEscape
  /-- The items of an array are of several kinds. -/
  | mixedArray
  /-- A key or a table is given twice. -/
  | duplicate
  /-- Reading breaks off. -/
  | breakdown (cause : Breakdown)
  deriving DecidableEq, Repr

/-- Breaks reading off. -/
def breakOff {α : Type} (cause : Breakdown) : Except Fault α := .error (.breakdown cause)

end MimeDatabase.Toml
