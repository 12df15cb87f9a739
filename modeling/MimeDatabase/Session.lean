import MimeDatabase.Config.Layers
import MimeDatabase.Log.Logger
import MimeDatabase.Snapshot
import MimeDatabase.Source.Directory

/-!
# Sessions

A session is what the library works with in a program: the services that it takes from elsewhere,
the files and the environment that it sees, the logger, and the default handle, which is made on
first use. Starting a session sets the logger up first and then loads the database, and only if both
succeed is there a new default handle.
-/

namespace MimeDatabase

/-- The state of a session. -/
structure Session where
  services : Services
  files : FileTree
  environment : Environment
  logger : Log.Logger
  handle? : Option Handle

/-- Why a database of the system cannot be loaded. -/
inductive LoadFault where
  | config (fault : ConfigFault)
  /-- A path cannot be examined. -/
  | refused (fault : FileFault)
  /-- There is no room for what a directory holds. -/
  | unbuilt (fault : Magic.BuildFault)
  | unavailable (fault : Unavailable)
  /-- The log file cannot be opened. -/
  | log (fault : OpenFault)
  deriving DecidableEq, Repr

namespace Session

/-! ## The database of the system -/

/-- A fault of directories as one of the system. -/
def ofDirectoryFault : Directory.Fault FileFault → LoadFault
  | .refused fault => .refused fault
  | .unbuilt fault => .unbuilt fault
  | .unavailable fault => .unavailable fault

/-- The directories that the settings name; where they name none, those of the standard search
path. -/
def directories (s : Session) (settings : DatabaseSettings) : List Path :=
  if settings.dataDirs.isEmpty then s.services.dataDirectories s.environment
  else settings.dataDirs.map Path.ofText

/-- The given settings; without any, those of the configuration. -/
def databaseSettings (s : Session) (given? : Option DatabaseSettings) :
    Except LoadFault DatabaseSettings :=
  match given? with
  | some settings => .ok settings
  | none =>
    match Config.load s.services s.files s.environment none with
    | .ok settings => .ok settings.database
    | .error fault => .error (.config fault)

/-- What is logged while settings are looked up. -/
def settingsEvents {α : Type} (s : Session) (given? : Option α) : List Log.Event :=
  if given?.isSome then [] else Config.loadEvents s.services s.files s.environment none

/-- Loads the database of the system. -/
def loadSystem (s : Session) (given? : Option DatabaseSettings) : Except LoadFault Database := do
  let settings ← s.databaseSettings given?
  (Directory.load s.files (s.directories settings) settings).mapError ofDirectoryFault

/-- What is logged while the database of the system is loaded. -/
def loadSystemEntries (s : Session) (given? : Option DatabaseSettings) : List Log.Entry :=
  Log.Entry.plain (s.settingsEvents given?) ++
    (match s.databaseSettings given? with
      | .error _ => []
      | .ok settings =>
        let dirs := s.directories settings
        Log.Entry.plain [.directoriesChosen (dirs.map Path.text)] ++
          Directory.loadEntries s.files dirs settings)

/-! ## The default handle -/

/-- The default handle. It is made on first use, and only then do the given settings count. -/
def defaultHandle (s : Session) (given? : Option DatabaseSettings) :
    Except LoadFault Handle × Session :=
  match s.handle? with
  | some handle => (.ok handle, s)
  | none =>
    match s.loadSystem given? with
    | .error fault => (.error fault, s)
    | .ok db => (.ok ⟨db⟩, { s with handle? := some ⟨db⟩ })

/-- What is logged when the default handle is asked for. -/
def defaultHandleEntries (s : Session) (given? : Option DatabaseSettings) : List Log.Entry :=
  if s.handle?.isSome then [] else s.loadSystemEntries given?

/-- Forgets the default handle. -/
def reset (s : Session) : Session := { s with handle? := none }

/-- The given settings; without any, those of the configuration. -/
def allSettings (s : Session) (given? : Option Settings) : Except LoadFault Settings :=
  match given? with
  | some settings => .ok settings
  | none => (Config.load s.services s.files s.environment none).mapError .config

/-- Applies all settings and makes a new default handle. The logger is set up before the database is
loaded, so it stays changed if loading fails. -/
def start (s : Session) (given? : Option Settings) : Except LoadFault Handle × Session :=
  match s.allSettings given? with
  | .error fault => (.error fault, s)
  | .ok settings =>
    let done := Log.configure s.files settings.logging
    let s := { s with logger := done.logger, files := done.files }
    match done.fault? with
    | some fault => (.error (.log fault), s)
    | none =>
      match s.loadSystem (some settings.database) with
      | .error fault => (.error fault, s)
      | .ok db => (.ok ⟨db⟩, { s with handle? := some ⟨db⟩ })

end Session

end MimeDatabase
