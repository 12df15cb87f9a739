import MimeDatabase.Grade
import MimeDatabase.Text.Blank
import MimeDatabase.Text.Numeral
import MimeDatabase.Text.Quoted
import MimeDatabase.TypeName

/-!
# Text records

The records of a shared MIME database that are written one to a line, and how each kind of line is
read. Every type name in a record is valid and in normal form.
-/

namespace MimeDatabase.Record

/-- A pattern for the names of files of a type. -/
structure Glob where
  typeName : String
  pattern : String
  weight : Nat
  caseSensitive : Bool
  deriving DecidableEq, Repr

/-- Another name for a type. -/
structure Alias where
  name : String
  typeName : String
  deriving DecidableEq, Repr

/-- A type and one of its parents. -/
structure Subclass where
  typeName : String
  parent : String
  deriving DecidableEq, Repr

/-- A type and an icon for it. -/
structure Icon where
  typeName : String
  icon : String
  deriving DecidableEq, Repr

/-- The forms that lines have. -/
inductive Form where
  | weightedGlob
  | glob
  | otherName
  | subclass
  | icon
  deriving DecidableEq, Repr

/-- How a form is described. -/
def Form.description : Form → String
  | weightedGlob => "weight:type:pattern"
  | glob => "type:pattern"
  | otherName => "'alias canonical'"
  | subclass => "'type parent'"
  | icon => "type:icon-name"

/-- Why a line is not a record. -/
inductive Fault where
  | notOfForm (form : Form)
  | badWeight (text : String)
  | emptyPattern
  | badType (name : String)
  deriving DecidableEq, Repr

/-- The text of a fault. -/
def Fault.message : Fault → String
  | notOfForm form => "expected " ++ form.description
  | badWeight text => "non-numeric weight " ++ Text.quote text
  | emptyPattern => "empty pattern"
  | badType name => "invalid MIME type " ++ Text.quote name

/-- The normal form of a type name, which must be valid. -/
def readType (name : List Char) : Except Fault String :=
  let normal := TypeName.normalize (String.ofList name)
  if TypeName.isValid normal then .ok normal else .error (.badType normal)

/-- Whether the flags of a glob ask for case sensitivity. -/
def asksForCase (flags : List Char) : Bool :=
  (Text.splitAt ',' flags).contains ['c', 's']

/-- Reads `weight:type:pattern`, with flags in an optional fourth field. Further fields and unknown
flags are passed over. -/
def readWeightedGlob (line : String) : Except Fault Glob :=
  match Text.splitAt ':' line.toList with
  | weightText :: typeText :: pattern :: rest =>
    match Text.int? weightText with
    | none => .error (.badWeight (String.ofList weightText))
    | some weight =>
      if pattern.isEmpty then .error .emptyPattern
      else
        match readType typeText with
        | .error fault => .error fault
        | .ok name =>
          .ok ⟨name, String.ofList pattern, clampGrade weight, rest.head?.any asksForCase⟩
  | _ => .error (.notOfForm .weightedGlob)

/-- Reads `type:pattern`. -/
def readGlob (line : String) : Except Fault Glob :=
  match Text.splitAt ':' line.toList with
  | [typeText, pattern] =>
    if pattern.isEmpty then .error (.notOfForm .glob)
    else
      match readType typeText with
      | .error fault => .error fault
      | .ok name => .ok ⟨name, String.ofList pattern, defaultWeight, false⟩
  | _ => .error (.notOfForm .glob)

/-- Reads two type names at the start of a line; more words are passed over. -/
def readTypePair (form : Form) (line : String) : Except Fault (String × String) :=
  match Text.words line.toList with
  | first :: second :: _ =>
    match readType first, readType second with
    | .ok a, .ok b => .ok (a, b)
    | .error fault, _ => .error fault
    | .ok _, .error fault => .error fault
  | _ => .error (.notOfForm form)

/-- Reads an alias and the type that it stands for. -/
def readAlias (line : String) : Except Fault Alias :=
  (readTypePair .otherName line).map fun pair => ⟨pair.1, pair.2⟩

/-- Reads a type and its parent. -/
def readSubclass (line : String) : Except Fault Subclass :=
  (readTypePair .subclass line).map fun pair => ⟨pair.1, pair.2⟩

/-- Reads `type:icon-name`. -/
def readIcon (line : String) : Except Fault Icon :=
  match Text.splitAt ':' line.toList with
  | [typeText, icon] =>
    if typeText.isEmpty || icon.isEmpty then .error (.notOfForm .icon)
    else
      match readType typeText with
      | .error fault => .error fault
      | .ok name => .ok ⟨name, String.ofList (Text.trim icon)⟩
  | _ => .error (.notOfForm .icon)

end MimeDatabase.Record
