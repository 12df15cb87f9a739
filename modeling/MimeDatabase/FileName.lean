import MimeDatabase.Text.Cut
import MimeDatabase.Text.Canonical

/-!
# File names

Only the last component of a path is matched against globs. Both slashes separate components, and
the name is brought into composed form, so that names written with separate accents match.
-/

namespace MimeDatabase.FileName

/-- The components of a path that name something: not the empty ones and not `.`. -/
def components (path : List Char) : List (List Char) :=
  (Text.splitAt '/' path).filter fun c => !c.isEmpty && c != ['.']

/-- The last component of a path with separators; a text without separators is a name as it is. -/
def lastComponent (path : List Char) : List Char :=
  if path.contains '/' then (components path).getLast?.getD [] else path

/-- The base name of a path, in composed form. -/
def normalize (path : String) : String :=
  let slashed := path.toList.map fun c => if c = '\\' then '/' else c
  String.ofList (Text.compose (lastComponent slashed))

end MimeDatabase.FileName
