import MimeDatabase.TypeName

/-!
# The type registry

A registry numbers type names densely from zero, in the order in which they are first seen. Numbers
never change: interning a name only ever appends. The two base types come first in every registry.
-/

namespace MimeDatabase

/-- A media type: its name in normal form and its number in the registry, if it has one. A type
that was looked up and never interned has no number. -/
structure MediaType where
  id : Option Nat
  name : String
  deriving DecidableEq, Repr, Inhabited

namespace MediaType

/-- The type of files of which nothing is known. -/
def octetStream : MediaType := ⟨some 0, TypeName.octetStream⟩

/-- The type of text of which no more is known. -/
def textPlain : MediaType := ⟨some 1, TypeName.textPlain⟩

/-- The media part of the name. -/
def media (t : MediaType) : String := TypeName.media t.name

/-- The subtype part of the name. -/
def subtype (t : MediaType) : String := TypeName.subtype t.name

/-- Whether this is one of the two base types, which carry little information. -/
def isGeneric (t : MediaType) : Bool := t.id == some 0 || t.id == some 1

end MediaType

/-- The interned names, in the order of their numbers. -/
structure Registry where
  names : List String
  deriving DecidableEq, Repr

namespace Registry

/-- A registry of the two base types. -/
def empty : Registry := ⟨[TypeName.octetStream, TypeName.textPlain]⟩

/-- The number of interned types. -/
def size (r : Registry) : Nat := r.names.length

/-- The interned type of a name, whatever the spelling of the name. -/
def find? (r : Registry) (name : String) : Option MediaType :=
  let key := TypeName.normalize name
  (r.names.idxOf? key).map fun i => ⟨some i, key⟩

/-- Whether a name is interned. -/
def contains (r : Registry) (name : String) : Bool :=
  r.names.contains (TypeName.normalize name)

/-- The interned type of a name, or a type without a number. -/
def lookup (r : Registry) (name : String) : MediaType :=
  (r.find? name).getD ⟨none, TypeName.normalize name⟩

/-- The type with a given number. -/
def byId? (r : Registry) (i : Nat) : Option MediaType :=
  r.names[i]?.map fun name => ⟨some i, name⟩

/-- The registry in which a name is interned. -/
def insert (r : Registry) (name : String) : Registry :=
  if r.contains name then r else ⟨r.names ++ [TypeName.normalize name]⟩

/-- The registry in which each of some names is interned, in order. -/
def insertAll (r : Registry) (names : List String) : Registry :=
  names.foldl insert r

/-- Interns a name: its type and the registry that holds it. -/
def intern (r : Registry) (name : String) : MediaType × Registry :=
  ((r.insert name).lookup name, r.insert name)

end Registry

end MimeDatabase
