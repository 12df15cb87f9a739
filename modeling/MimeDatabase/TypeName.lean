import MimeDatabase.Text.Blank
import MimeDatabase.Text.Case

/-!
# Type names

A type name is a text such as `image/png`: a media part and a subtype with one slash between them.
Names are compared in normal form, which is lower case without white space at the ends.
-/

namespace MimeDatabase.TypeName

/-- The type of files of which nothing is known. -/
def octetStream : String := "application/octet-stream"

/-- The type of text of which no more is known. -/
def textPlain : String := "text/plain"

/-- The normal form of a name. -/
def normalize (name : String) : String :=
  String.ofList (Text.lower (Text.trim name.toList))

/-- What stands before the first slash; nothing if there is none. -/
def media (name : String) : String :=
  match Text.cutAt '/' name.toList with
  | (before, some _) => String.ofList before
  | (_, none) => ""

/-- What stands after the first slash; nothing if there is none. -/
def subtype (name : String) : String :=
  match Text.cutAt '/' name.toList with
  | (_, some after) => String.ofList after
  | (_, none) => ""

/-- Whether a name has a media part and a subtype, one slash and no white space. -/
def isValid (name : String) : Bool :=
  match Text.cutAt '/' name.toList with
  | (_, none) => false
  | (before, some after) =>
    !before.isEmpty && !after.isEmpty && !name.toList.any Text.isBlank && !after.contains '/'

/-- A name with dashes in the place of slashes, as icons are called. -/
def dashed (name : String) : String :=
  String.ofList (name.toList.map fun c => if c = '/' then '-' else c)

end MimeDatabase.TypeName
