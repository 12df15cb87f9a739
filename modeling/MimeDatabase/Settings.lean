import MimeDatabase.Alias
import MimeDatabase.Icon
import MimeDatabase.Log.Record
import MimeDatabase.Magic.Lookup

/-!
# Settings

What can be set about a database and about logging.
-/

namespace MimeDatabase

/-- The settings of a database. -/
structure DatabaseSettings where
  dataDirs : List String
  maxSniffBytes : Nat
  aliasMaxDepth : Nat
  defaultGenericIcon : String
  deriving DecidableEq, Repr

/-- The settings where nothing is said: the standard directories and the usual limits. -/
def DatabaseSettings.default : DatabaseSettings :=
  ⟨[], Magic.defaultSniffLimit, AliasTable.defaultMaxDepth, MimeDatabase.defaultGenericIcon⟩

/-- The settings of logging. -/
structure LoggingSettings where
  level : Log.Level
  layout : Log.Layout
  file : Option String
  deriving DecidableEq, Repr

/-- The settings where nothing is said: warnings and worse, on short lines, in no file. -/
def LoggingSettings.default : LoggingSettings := ⟨.warning, .simple, none⟩

/-- All settings. -/
structure Settings where
  logging : LoggingSettings
  database : DatabaseSettings
  deriving DecidableEq, Repr

/-- The settings where nothing is said. -/
def Settings.default : Settings := ⟨.default, .default⟩

end MimeDatabase
