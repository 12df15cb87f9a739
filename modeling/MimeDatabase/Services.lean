import MimeDatabase.Config.Schema
import MimeDatabase.Config.Toml.Document
import MimeDatabase.Locations

/-!
# Services

What is taken from elsewhere: a reader of configuration documents, the check of the values in them,
and the places where a system keeps data and configuration. The rest of the development takes any
such services. Where a property needs something of them it says what. `Services.standard` are those
that programs run with.
-/

namespace MimeDatabase

/-- The services that a program runs with. -/
structure Services where
  /-- The table that the text of a document stands for. -/
  readDocument : List Char → Except Toml.Fault Table
  /-- The settings that a table stands for, or all that is wrong with it. -/
  readSettings : Table → Schema.Reading Settings
  /-- The directory of the user's data. -/
  userData : Environment → String
  /-- The directories of shared data, in the order in which they are looked through. -/
  sharedData : Environment → List String
  /-- The directory of the user's configuration of an application. -/
  userConfig : Environment → String → Path

namespace Services

/-- TOML documents, settings that are checked field by field, and the XDG directories. -/
def standard : Services where
  readDocument := Toml.readDocument
  readSettings := Schema.readSettings
  userData := Locations.userData
  sharedData := Locations.sharedData
  userConfig := Locations.userConfig

/-- A list without repetitions; of equal items the first is kept. -/
def distinct {α : Type} [DecidableEq α] (items : List α) : List α :=
  items.foldl (fun kept a => if a ∈ kept then kept else kept ++ [a]) []

variable (services : Services)

/-- The directories of databases, highest precedence first. Roots without a name are passed over. -/
def dataDirectories (env : Environment) : List Path :=
  let roots := (services.userData env :: services.sharedData env).filter (· ≠ "")
  distinct (roots.map fun root => (Path.ofText root).entry "mime")

/-- The configuration files of an application: that of the system, and then that of the user. -/
def configFiles (env : Environment) (app : String) : List Path :=
  [(Path.ofText "/etc").join (Path.ofText app), services.userConfig env app].map fun dir =>
    dir.entry "config.toml"

end Services

end MimeDatabase
