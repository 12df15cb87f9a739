import MimeDatabase.Hierarchy

/-!
# Icons

The icon of a type is the recorded one or is called after the type. Its generic icon is the
recorded one, that of the nearest ancestor with a record, or is called after the media part.
-/

namespace MimeDatabase

/-- The generic icon of last resort. -/
def defaultGenericIcon : String := "application-x-generic"

/-- Recorded icons. Of several records for one type the first holds. -/
structure IconTable where
  icons : List (MediaType × String)
  genericIcons : List (MediaType × String)
  fallback : String
  deriving DecidableEq, Repr

namespace IconTable

/-- The icon of a type. -/
def iconName (table : IconTable) (t : MediaType) : String :=
  (table.icons.lookup t).getD (TypeName.dashed t.name)

/-- The generic icon of a type. -/
def genericIconName (table : IconTable) (h : Hierarchy) (t : MediaType) : String :=
  match (t :: h.ancestors t).findSome? (fun a => table.genericIcons.lookup a) with
  | some icon => icon
  | none => if t.media = "" then table.fallback else t.media ++ "-x-generic"

/-- Adds a name unless it is there. -/
def addName (names : List String) (name : String) : List String :=
  if names.contains name then names else names ++ [name]

/-- All icons that may stand for a type, most specific first, each once. -/
def iconNames (table : IconTable) (h : Hierarchy) (t : MediaType) : List String :=
  [TypeName.dashed t.name, table.genericIconName h t].foldl addName
    (table.icons.lookup t).toList

end IconTable

end MimeDatabase
