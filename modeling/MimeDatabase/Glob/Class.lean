/-!
# Glob classes

A pattern without wildcards is literal; a star followed by literal text is a suffix pattern; any
other pattern is generic. Literal patterns are preferred to suffixes and these to generic patterns.
-/

namespace MimeDatabase.Glob

/-- The kinds of patterns, best first. -/
inductive Kind where
  | literal
  | extension
  | generic
  deriving DecidableEq, Repr

/-- The place of a kind in the order of preference. -/
def Kind.index : Kind → Int
  | literal => 0
  | extension => 1
  | generic => 2

/-- The characters with a meaning of their own in a pattern. -/
def isWildcard (c : Char) : Bool := c == '*' || c == '?' || c == '[' || c == '\\'

/-- The kind of a pattern. -/
def Kind.of (pattern : List Char) : Kind :=
  match pattern with
  | '*' :: c :: rest => if (c :: rest).any isWildcard then .generic else .extension
  | _ => if pattern.any isWildcard then .generic else .literal

end MimeDatabase.Glob
