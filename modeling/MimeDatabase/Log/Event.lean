import MimeDatabase.Log.Level
import MimeDatabase.Text.Quoted

/-!
# What the library logs

Every occasion on which the library logs something, with its severity, the channel it goes to and
its message. Operations report their events beside their answers, so a log is a list like any other.
-/

namespace MimeDatabase.Log

/-- An occasion on which something is logged. -/
inductive Event where
  /-- Following an alias leads back to a name seen before. -/
  | aliasCycle (name repeated : String)
  /-- Following an alias takes more steps than allowed. -/
  | aliasTooDeep (name : String) (maxDepth : Int)
  /-- A type is recorded as its own parent. -/
  | selfParent (name : String)
  /-- Several types share the best glob. -/
  | ambiguousGlob (file : String) (types : List String) (pattern : String)
  /-- A content signature is found. -/
  | signatureFound (type : String) (priority : Nat)
  /-- The name decides, because the content says no more than text or binary. -/
  | nameDecides (glob content : String)
  /-- The content decides against the name. -/
  | contentDecides (glob content : String)
  /-- A type is detected. -/
  | detected (file : Option String) (type : String)
  /-- An entry of a magic file is skipped. -/
  | magicEntrySkipped (source : String) (offset : Nat) (reason : String)
  /-- A section of a magic file has no usable entry. -/
  | sectionDropped (type : String)
  /-- A magic file is read to its end. -/
  | magicRead (source : String) (rules errors : Nat)
  /-- A line of a record file is skipped. -/
  | lineSkipped (source : String) (line : Nat) (reason : String)
  /-- A database is built. -/
  | databaseLoaded (sources globs rules subclasses aliases skipped : Nat)
  /-- A reloaded database replaces the current one. -/
  | snapshotPublished
  /-- A record file is not there. -/
  | recordFileAbsent (path : String)
  /-- The operating system refuses to look into a directory. -/
  | directoryUnreadable (path reason : String)
  /-- A directory is read. -/
  | directoryRead (path : String) (records skipped : Nat)
  /-- Directories are about to be read. -/
  | directoriesChosen (paths : List String)
  /-- A configuration file is not there. -/
  | configFileAbsent (path : String)
  /-- A configuration file is merged. -/
  | configFileMerged (path : String)
  deriving DecidableEq, Repr

namespace Event

/-- How severe an event is. -/
def level : Event → Level
  | aliasCycle .. | aliasTooDeep .. | magicEntrySkipped .. | lineSkipped ..
  | directoryUnreadable .. => .warning
  | databaseLoaded .. | snapshotPublished | directoriesChosen .. => .info
  | _ => .debug

/-- The channel that an event is logged on. -/
def channel : Event → String
  | aliasCycle .. | aliasTooDeep .. => "shared_mime.registry"
  | selfParent .. => "shared_mime.hierarchy"
  | ambiguousGlob .. => "shared_mime.globs"
  | signatureFound .. => "shared_mime.magic.matcher"
  | nameDecides .. | contentDecides .. => "shared_mime.detection"
  | detected .. | databaseLoaded .. => "shared_mime.database"
  | magicEntrySkipped .. | sectionDropped .. | magicRead .. => "shared_mime.magic.parser"
  | lineSkipped .. => "shared_mime.records"
  | snapshotPublished => "shared_mime.handle"
  | recordFileAbsent .. | directoryUnreadable .. | directoryRead .. | directoriesChosen .. =>
    "shared_mime.sources"
  | configFileAbsent .. | configFileMerged .. => "shared_mime.common.config"

/-- Named details between braces: the names are quoted, the values are given as they are shown. -/
def details (fields : List (String × String)) : String :=
  "\x7b" ++ String.intercalate ", " (fields.map fun f => "'" ++ f.1 ++ "': " ++ f.2) ++ "\x7d"

/-- A text between single quotes, without any escapes. -/
def plain (s : String) : String := "'" ++ s ++ "'"

/-- The message of an event. -/
def message : Event → String
  | aliasCycle name repeated =>
    "Alias cycle detected: " ++ details [("name", plain name), ("at", plain repeated)]
  | aliasTooDeep name maxDepth =>
    "Alias chain too deep: " ++ details [("name", plain name), ("max_depth", toString maxDepth)]
  | selfParent name => "Ignoring self-subclass record for " ++ name
  | ambiguousGlob file types pattern =>
    "Ambiguous glob match: " ++
      details [("file", plain file), ("types", Text.quoteList types), ("pattern", plain pattern)]
  | signatureFound type priority =>
    "Magic match: " ++ details [("type", plain type), ("priority", toString priority)]
  | nameDecides glob content =>
    "Preferring file name over generic content type: " ++
      details [("glob", plain glob), ("magic", plain content)]
  | contentDecides glob content =>
    "Preferring content signature over file name: " ++
      details [("glob", plain glob), ("magic", plain content)]
  | detected file type =>
    "Detected type: " ++ details [("file", plain (file.getD "None")), ("type", plain type)]
  | magicEntrySkipped source offset reason =>
    "Skipping malformed magic entry: " ++
      details [("source", plain source), ("offset", toString offset), ("reason", plain reason)]
  | sectionDropped type => "Dropping magic section without usable entries: " ++ type
  | magicRead source rules errors =>
    "Parsed magic file: " ++
      details [("source", plain source), ("rules", toString rules), ("errors", toString errors)]
  | lineSkipped source line reason =>
    "Skipping malformed record: " ++
      details [("source", plain source), ("line", toString line), ("reason", plain reason)]
  | databaseLoaded sources globs rules subclasses aliases skipped =>
    "Loaded MIME database: " ++
      details [("sources", toString sources), ("globs", toString globs), ("magic", toString rules),
        ("subclasses", toString subclasses), ("aliases", toString aliases),
        ("skipped", toString skipped)]
  | snapshotPublished => "Published reloaded MIME database"
  | recordFileAbsent path => "Record file not present: " ++ path
  | directoryUnreadable path reason =>
    "Cannot read MIME directory: " ++ details [("path", plain path), ("error", plain reason)]
  | directoryRead path records skipped =>
    "Read MIME directory: " ++
      details [("path", plain path), ("records", toString records), ("skipped", toString skipped)]
  | directoriesChosen paths => "Loading MIME database from " ++ Text.quoteList paths
  | configFileAbsent path => "Config file not present: " ++ path
  | configFileMerged path => "Merging config file: " ++ path

end Event

end MimeDatabase.Log
