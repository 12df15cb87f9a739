import MimeDatabase.FileName

/-!
# Paths

A path is a root, which may be missing, and the components below it. Empty components and those of
a single dot say nothing and are left out, so a path has one text.
-/

namespace MimeDatabase

/-- A path. -/
structure Path where
  root : String
  parts : List String
  deriving DecidableEq, Repr

namespace Path

/-- The root at the beginning of a text: none, one slash, or two if there are no more than two. -/
def rootOf : List Char → String
  | '/' :: '/' :: '/' :: _ => "/"
  | '/' :: '/' :: _ => "//"
  | '/' :: _ => "/"
  | _ => ""

/-- The path that a text spells. -/
def ofText (s : String) : Path :=
  ⟨rootOf s.toList, (FileName.components s.toList).map String.ofList⟩

/-- The text of a path; a dot for the path of nothing. -/
def text (p : Path) : String :=
  if p.root = "" && p.parts.isEmpty then "." else p.root ++ String.intercalate "/" p.parts

/-- A path below another one; a path with a root stands for itself. -/
def join (p q : Path) : Path := if q.root = "" then ⟨p.root, p.parts ++ q.parts⟩ else q

/-- The entry of a name in a directory. -/
def entry (p : Path) (name : String) : Path := ⟨p.root, p.parts ++ [name]⟩

/-- The last component; empty for a path without any. -/
def name (p : Path) : String := p.parts.getLast?.getD ""

/-- The directory that a path lies in; a path without components lies in itself. -/
def parent (p : Path) : Path := ⟨p.root, p.parts.dropLast⟩

/-- Whether a path starts at a root. -/
def isAbsolute (p : Path) : Bool := p.root ≠ ""

end Path

end MimeDatabase
