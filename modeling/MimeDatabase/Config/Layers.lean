import MimeDatabase.Config.Environment
import MimeDatabase.File.Tree
import MimeDatabase.Log.Event
import MimeDatabase.Services
import MimeDatabase.Text.Lines
import MimeDatabase.Text.Utf8

/-!
# Layered configuration

The settings come from several layers, each laid over those before it: a file of defaults, the file
of the system, the file of the user, and the environment. Files that are not there are passed over.
How a document is read, where the files are and which settings there are is a matter of services.
-/

namespace MimeDatabase

/-- Why there are no settings. -/
inductive ConfigFault where
  /-- A file cannot be examined. -/
  | refused (fault : FileFault)
  /-- A file is not UTF-8. -/
  | undecodable (fault : Text.Utf8Error)
  /-- A file is not a document. -/
  | malformed (path : String)
  /-- Reading a file breaks off. -/
  | brokenOff (cause : Toml.Breakdown)
  /-- The layers together have problems. -/
  | invalid (app : String) (problems : List Schema.Problem)
  deriving DecidableEq, Repr

namespace Config

/-- The name of the application whose settings these are. -/
def appName : String := "shared-mime"

variable (services : Services)

/-- The files of the layers, lowest first. -/
def layerFiles (env : Environment) (defaults? : Option Path) : List Path :=
  defaults?.toList ++ services.configFiles env appName

/-- The table of a file that is there. -/
def readLayer (path : Path) (content : List UInt8) : Except ConfigFault Table :=
  match Text.utf8? content with
  | .error fault => .error (.undecodable fault)
  | .ok text =>
    match services.readDocument (Text.uniformLineEnds text) with
    | .error (.breakdown cause) => .error (.brokenOff cause)
    | .error _ => .error (.malformed path.text)
    | .ok table => .ok table

/-- The table of a layer; `none` if its file is not there. -/
def layer? (files : FileTree) (path : Path) : Except ConfigFault (Option Table) :=
  match files.isFile path with
  | .error fault => .error (.refused fault)
  | .ok false => .ok none
  | .ok true =>
    match files.read path with
    | .ok content => (readLayer services path content).map some
    | .error (.refused fault) => .error (.refused fault)
    | .error .nullCharacter => .ok none

/-- A table with the layers of some files laid over it, one after the other. -/
def layered (files : FileTree) (below : Table) : List Path → Except ConfigFault Table
  | [] => .ok below
  | path :: rest => do
    match ← layer? services files path with
    | none => layered files below rest
    | some upper => layered files (Table.over below upper) rest

/-- What is logged about the files, up to the first that cannot be read. -/
def layerEvents (files : FileTree) : List Path → List Log.Event
  | [] => []
  | path :: rest =>
    match files.isFile path with
    | .error _ => []
    | .ok false => .configFileAbsent path.text :: layerEvents files rest
    | .ok true =>
      .configFileMerged path.text ::
        (match layer? services files path with
          | .ok _ => layerEvents files rest
          | .error _ => [])

/-- The settings of all layers. -/
def load (files : FileTree) (env : Environment) (defaults? : Option Path) :
    Except ConfigFault Settings := do
  let table ← layered services files [] (layerFiles services env defaults?)
  match services.readSettings (env.overrideAll appName table) with
  | .ok settings => return settings
  | .error problems => throw (.invalid appName problems)

/-- What is logged while the settings are loaded. -/
def loadEvents (files : FileTree) (env : Environment) (defaults? : Option Path) :
    List Log.Event :=
  layerEvents services files (layerFiles services env defaults?)

end Config

end MimeDatabase
