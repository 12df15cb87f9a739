import MimeDatabase.Config.Environment
import MimeDatabase.File.Path

/-!
# Standard locations

Where a system keeps data and configuration: in directories that the environment names, or in the
usual ones where it names none. A name has to begin at the root to count.
-/

namespace MimeDatabase.Locations

/-- Whether a directory is given from the root on. Others do not count as named. -/
def isAbsolute (dir : String) : Bool := dir.toList.head? = some '/'

/-- The directory that a variable names. -/
def directory? (env : Environment) (name : String) : Option String :=
  (env.get? name).filter isAbsolute

/-- The home directory. Slashes at its end do not count. -/
def home (env : Environment) : List Char :=
  match directory? env "HOME" with
  | none => "/root".toList
  | some h => (h.toList.reverse.dropWhile (· = '/')).reverse

/-- A directory below the home directory. -/
def belowHome (env : Environment) (dir : String) : String :=
  String.ofList (home env ++ '/' :: dir.toList)

/-- The directory of the user's data. -/
def userData (env : Environment) : String :=
  (directory? env "XDG_DATA_HOME").getD (belowHome env ".local/share")

/-- The directories of shared data where none is named. -/
def usualSharedData : List String := ["/usr/local/share", "/usr/share"]

/-- The directories of shared data, in the order in which they are looked through. -/
def sharedData (env : Environment) : List String :=
  let named := (env.get? "XDG_DATA_DIRS").map fun dirs =>
    ((Text.splitAt ':' dirs.toList).map String.ofList).filter isAbsolute
  match named with
  | none | some [] => usualSharedData
  | some dirs => dirs

/-- The directory of the user's configuration of an application. -/
def userConfig (env : Environment) (app : String) : Path :=
  let dir := (directory? env "XDG_CONFIG_HOME").getD (belowHome env ".config")
  (Path.ofText dir).join (Path.ofText app)

end MimeDatabase.Locations
