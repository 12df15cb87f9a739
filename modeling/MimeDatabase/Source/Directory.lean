import MimeDatabase.Capacity
import MimeDatabase.Database
import MimeDatabase.File.Tree
import MimeDatabase.Log.Entry
import MimeDatabase.Text.Lines
import MimeDatabase.Text.Utf8

/-!
# Database directories

A directory holds the record files of one source, each under its usual name; a file that is not
there yields no records. A directory that the operating system refuses to look into yields no
records either, but when it is loaded with others it must be possible to find out whether it is a
directory. A magic file for whose entries there is no room is not put up with either.
-/

namespace MimeDatabase

namespace Directory

/-! ## The files of a directory -/

/-- What a program is told about files, and how many levels of entries it has room for. Every
question about a path may be refused, for whatever reason the system has. -/
structure Access (φ : Type) where
  isFile : Path → Except φ Bool
  isDirectory : Path → Except φ Bool
  /-- The content of a file; nothing if no file can have such a path. -/
  content : Path → Except φ (Option (List UInt8))
  heightLimit : Nat

/-- The text of bytes: what is not UTF-8 is replaced, and line ends are made uniform. -/
def textOf (content : List UInt8) : String :=
  String.ofList (Text.uniformLineEnds (Text.decodeUtf8 content))

namespace Access

variable {φ : Type} (a : Access φ)

/-- The content of a file, if it is there. -/
def content? (path : Path) : Except φ (Option (List UInt8)) := do
  if ← a.isFile path then a.content path else return none

/-- The text of a record file, if it is there. -/
def text? (dir : Path) (name : String) : Except φ (Option String) :=
  (a.content? (dir.entry name)).map fun c => c.map textOf

/-- The contents of all record files. The plain glob file is only read if there is no weighted
one. -/
def texts (dir : Path) : Except φ SourceTexts := do
  let weightedGlobs ← a.text? dir "globs2"
  let globs ← if weightedGlobs.isNone then a.text? dir "globs" else pure none
  let magic ← a.content? (dir.entry "magic")
  let subclasses ← a.text? dir "subclasses"
  let aliases ← a.text? dir "aliases"
  let icons ← a.text? dir "icons"
  let genericIcons ← a.text? dir "generic-icons"
  return { source := dir.text, weightedGlobs, globs, magic, subclasses, aliases, icons,
           genericIcons }

/-- Reads a directory. -/
def records (dir : Path) : Except Magic.BuildFault RecordSet :=
  match a.texts dir with
  | .ok texts => RecordSet.ofTexts a.heightLimit texts
  | .error _ => .ok (RecordSet.empty dir.text)

end Access

/-- The access to a file tree. -/
def accessTo (files : FileTree) : Access FileFault where
  isFile := files.isFile
  isDirectory := files.isDirectory
  content path :=
    match files.read path with
    | .ok content => .ok (some content)
    | .error (.refused fault) => .error fault
    | .error .nullCharacter => .ok none
  heightLimit := Magic.heightLimit

/-- The contents of all record files of a directory. -/
def texts (files : FileTree) (dir : Path) : Except FileFault SourceTexts :=
  (accessTo files).texts dir

/-- Reads a directory. -/
def read (files : FileTree) (dir : Path) : Except Magic.BuildFault RecordSet :=
  (accessTo files).records dir

/-! ## What is logged -/

/-- The names of the files that are looked for. -/
def fileNames (files : FileTree) (dir : Path) : List String :=
  let globs := match files.isFile (dir.entry "globs2") with
    | .ok true => ["globs2"]
    | _ => ["globs2", "globs"]
  globs ++ ["magic", "subclasses", "aliases", "icons", "generic-icons"]

/-- What is logged about files that are not there, up to the first that cannot be examined. A
missing signature file is not mentioned. -/
def absenceEvents (files : FileTree) (dir : Path) : List String → List Log.Event
  | [] => []
  | name :: rest =>
    match files.isFile (dir.entry name) with
    | .error _ => []
    | .ok true => absenceEvents files dir rest
    | .ok false =>
      (if name = "magic" then [] else [.recordFileAbsent (dir.entry name).text]) ++
        absenceEvents files dir rest

/-- What is logged while a directory is read. -/
def readEntries (files : FileTree) (dir : Path) : List Log.Entry :=
  let context : Table := [("source", .text dir.text)]
  let absences := absenceEvents files dir (fileNames files dir)
  match texts files dir with
  | .error fault =>
    Log.Entry.within context (absences ++ [.directoryUnreadable dir.text fault.message])
  | .ok texts =>
    Log.Entry.within context (absences ++ RecordSet.readEvents Magic.heightLimit texts) ++
      match RecordSet.ofTexts Magic.heightLimit texts with
      | .error _ => []
      | .ok records =>
        Log.Entry.plain [.directoryRead dir.text records.count records.errors.length]

/-! ## Loading directories -/

/-- Why no database can be loaded from directories. -/
inductive Fault (φ : Type) where
  /-- It cannot be found out whether a path leads to a directory. -/
  | refused (fault : φ)
  /-- There is no room for what a directory holds. -/
  | unbuilt (fault : Magic.BuildFault)
  | unavailable (fault : Unavailable)
  deriving DecidableEq, Repr

namespace Access

variable {φ : Type} (a : Access φ)

/-- Reads a path if it leads to a directory. -/
def recordsAt (dir : Path) : Except (Fault φ) (Option RecordSet) :=
  match a.isDirectory dir with
  | .error fault => .error (.refused fault)
  | .ok false => .ok none
  | .ok true => ((a.records dir).mapError .unbuilt).map some

/-- Reads those of several paths that lead to directories. -/
def readAll : List Path → Except (Fault φ) (List RecordSet)
  | [] => .ok []
  | dir :: rest => do
    let set? ← a.recordsAt dir
    let others ← readAll rest
    return set?.toList ++ others

/-- Loads a database from several paths, highest precedence first. -/
def load (dirs : List Path) (settings : DatabaseSettings) : Except (Fault φ) Database := do
  let sets ← a.readAll dirs
  (Database.load sets settings).mapError .unavailable

end Access

/-- What is logged while the paths are read, up to the first that cannot be examined or for which
there is no room. -/
def readAllEntries (files : FileTree) : List Path → List Log.Entry
  | [] => []
  | dir :: rest =>
    match (accessTo files).recordsAt dir with
    | .error (.unbuilt _) => readEntries files dir
    | .error _ => []
    | .ok (some _) => readEntries files dir ++ readAllEntries files rest
    | .ok none => readAllEntries files rest

/-- Loads a database from several paths of a file tree. -/
def load (files : FileTree) (dirs : List Path) (settings : DatabaseSettings) :
    Except (Fault FileFault) Database :=
  (accessTo files).load dirs settings

/-- What is logged while a database is loaded. -/
def loadEntries (files : FileTree) (dirs : List Path) (settings : DatabaseSettings) :
    List Log.Entry :=
  readAllEntries files dirs ++
    (match (accessTo files).readAll dirs with
      | .error _ => []
      | .ok sets => Log.Entry.plain (Database.loadEvents sets settings))

end Directory

namespace Database

/-- Why the leading bytes of a file cannot be read. -/
inductive ReadFault where
  | unopened (fault : OpenFault)
  /-- There is no room for as many bytes. -/
  | noRoom (fault : CapacityFault)
  deriving DecidableEq, Repr

/-- As many leading bytes of a file as detection looks at. -/
def readFront (db : Database) (files : FileTree) (path : Path) : Except ReadFault (List UInt8) :=
  match files.read path with
  | .error fault => .error (.unopened fault)
  | .ok content =>
    match Capacity.readFault? db.readSize with
    | some fault => .error (.noRoom fault)
    | none => .ok (db.front content)

/-- The type of a file, from its name and as many leading bytes as detection looks at. -/
def detectFile (db : Database) (files : FileTree) (path : Path) : Except ReadFault MediaType :=
  (db.readFront files path).map fun front => db.detect (some path.name) (some front) .little

/-- What is logged when the type of a file is detected. -/
def detectFileEvents (db : Database) (files : FileTree) (path : Path) : List Log.Event :=
  match db.readFront files path with
  | .error _ => []
  | .ok front => db.detectEvents (some path.name) (some front) .little

end Database

end MimeDatabase
