import MimeDatabase.File.Tree
import MimeDatabase.Settings
import MimeDatabase.Text.Utf8

/-!
# Loggers

A logger has a threshold and the places that records are written to: a console, in any layout, and a
file that takes one JSON object per line. Setting a logger up replaces all of them, and a file that
cannot be opened is noticed only after that. Contexts add fields to the records that are logged
inside them; the innermost context has precedence.
-/

namespace MimeDatabase.Log

/-- A place that records are written to. -/
inductive Sink where
  | console (layout : Layout)
  | file (path : Path)
  deriving DecidableEq, Repr

/-- The layout of the records at a place. -/
def Sink.layout : Sink → Layout
  | console layout => layout
  | file _ => .json

/-- A logger. -/
structure Logger where
  threshold : Level
  sinks : List Sink
  deriving DecidableEq, Repr

/-- A logger that lets everything pass and writes it nowhere. -/
def Logger.new : Logger := ⟨.unset, []⟩

/-- No threshold has this name, given in upper case. -/
structure UnknownLevel where
  name : String
  deriving DecidableEq, Repr

/-- The text of the error. -/
def UnknownLevel.message (e : UnknownLevel) : String := "Unknown level: " ++ Text.quote e.name

/-- The threshold of a name in any case. -/
def readThreshold (name : String) : Except UnknownLevel Level :=
  match Level.ofAnyCase? name with
  | some threshold => .ok threshold
  | none => .error ⟨Level.upperName name⟩

/-- Opens a log file: the directories it lies in are made, and so is the file. With the fault, if it
cannot be opened, come the files as they are then; directories that were made before it stay. -/
def openLog (files : FileTree) (path : Path) : FileTree × Option OpenFault :=
  if FileTree.hasNull path.parent then (files, some .nullCharacter)
  else
    match files.withDirectories path.parent with
    | (files, some fault) => (files, some (.refused fault))
    | (files, none) =>
      match files.append (files.absolute path) [] with
      | .ok files => (files, none)
      | .error fault => (files, some fault)

/-- What setting a logger up comes to: the logger and the files afterwards, and the fault if the log
file cannot be opened. -/
structure SetUp where
  logger : Logger
  files : FileTree
  fault? : Option OpenFault

/-- Sets a logger up with a threshold, a layout for the console and possibly a log file. -/
def setUp (files : FileTree) (threshold : Level) (layout : Layout) (file? : Option Path) :
    SetUp :=
  let console : Logger := ⟨threshold, [.console layout]⟩
  match file? with
  | none => ⟨console, files, none⟩
  | some path =>
    match openLog files path with
    | (files, some fault) => ⟨console, files, some fault⟩
    | (files, none) => ⟨{ console with sinks := console.sinks ++ [.file path] }, files, none⟩

/-- Sets a logger up as the settings say. An empty file name stands for no file. -/
def configure (files : FileTree) (settings : LoggingSettings) : SetUp :=
  setUp files settings.level settings.layout
    (match settings.file with
      | none | some "" => none
      | some name => some (Path.ofText name))

/-! ## Contexts -/

/-- The fields of the open contexts, the innermost first; those of an outer one are contained in the
inner ones. -/
abbrev Contexts := List Table

namespace Contexts

/-- The fields that are in force. -/
def fields (c : Contexts) : Table := c.head?.getD []

/-- Opens a context. -/
def enter (c : Contexts) (new : Table) : Contexts :=
  new.foldl (fun t f => Table.put f.1 f.2 t) c.fields :: c

/-- Closes the innermost context. -/
def exit (c : Contexts) : Contexts := c.tail

end Contexts

/-! ## Writing -/

/-- Writes a record at a place: the console takes it as a line, the file as a line at its end. A
record that has no text in the layout of the place is not written there. -/
def writeTo (files : FileTree) (r : Record) (sink : Sink) : FileTree × String :=
  match sink.layout.render r with
  | .error _ => (files, "")
  | .ok line =>
    match sink with
    | .console _ => (files, line ++ "\n")
    | .file path =>
      match files.append (files.absolute path) (Text.encodeUtf8 (line ++ "\n")) with
      | .ok files => (files, "")
      | .error _ => (files, "")

/-- What is shown of a record without any place to write to: the messages of warnings and worse. -/
def lastResort (r : Record) : String :=
  if r.level.rank < Level.warning.rank then ""
  else
    match r.message with
    | .ok message => message ++ "\n"
    | .error _ => ""

/-- Writes a record: the files afterwards and what the console shows. -/
def Logger.write (l : Logger) (files : FileTree) (r : Record) : FileTree × String :=
  if !l.threshold.admits r.level then (files, "")
  else if l.sinks.isEmpty then (files, lastResort r)
  else
    l.sinks.foldl (fun (files, shown) sink =>
      let (files, more) := writeTo files r sink
      (files, shown ++ more)) (files, "")

end MimeDatabase.Log
