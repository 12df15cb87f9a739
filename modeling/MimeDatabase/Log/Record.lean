import MimeDatabase.Log.Instant
import MimeDatabase.Log.Json
import MimeDatabase.Log.Level
import MimeDatabase.Log.Template

/-!
# Log records

A log record and the layouts in which it is written: a short line, a line with the time and the
place in the program, or one JSON object. The fields of the surrounding context are members of that
object and take precedence over those of the record itself. The message of a record is a template
with its arguments and is filled only when the record is written.
-/

namespace MimeDatabase.Log

/-- An error that a record tells of: its kind and what it was raised with. -/
structure Cause where
  kind : String
  argument : String
  deriving DecidableEq, Repr

/-- Why an error is not made of one argument: its kind takes more. -/
inductive CauseFault where
  | takes (count : Nat)
  /-- A group of errors takes a message and the errors. -/
  | group
  deriving DecidableEq, Repr

/-- The text of the fault. -/
def CauseFault.message : CauseFault → String
  | takes count => "function takes exactly " ++ toString count ++ " arguments (1 given)"
  | group => "BaseExceptionGroup.__new__() takes exactly 2 arguments (1 given)"

namespace Cause

/-- The name of a kind of errors; some have another name beside their own. -/
def properKind (kind : String) : String :=
  if kind = "IOError" || kind = "EnvironmentError" then "OSError" else kind

/-- An error of a kind, given by any of its names, that is made of one argument. -/
def make (kind argument : String) : Except CauseFault Cause :=
  if ["UnicodeDecodeError", "UnicodeEncodeError"].contains kind then .error (.takes 5)
  else if kind = "UnicodeTranslateError" then .error (.takes 4)
  else if ["ExceptionGroup", "BaseExceptionGroup"].contains kind then .error .group
  else .ok ⟨properKind kind, argument⟩

/-- The text of an error. A missing key is quoted. -/
def text (c : Cause) : String := if c.kind = "KeyError" then Text.quote c.argument else c.argument

/-- Whether an error tells of a place in a text, and so always has something said about it. -/
def isAboutSyntax (c : Cause) : Bool :=
  ["SyntaxError", "IndentationError", "TabError"].contains c.kind

/-- The kind of an error and its text, if it has one. -/
def summary (c : Cause) : String :=
  if c.text ≠ "" then c.kind ++ ": " ++ c.text
  else if c.isAboutSyntax then c.kind ++ ": <no detail available>"
  else c.kind

end Cause

/-- A log record. -/
structure Record where
  level : Level
  channel : String
  template : String
  arguments : List Value
  path : String
  function : String
  line : Int
  /-- Seconds since the beginning of 1970. -/
  time : Double
  fields : Table
  cause? : Option Cause
  deriving Repr

/-- Why a record cannot be written. -/
inductive RecordFault where
  | cause (fault : CauseFault)
  | time (fault : InstantFault)
  | template (fault : TemplateFault)
  deriving DecidableEq, Repr

/-- The text of the fault. -/
def RecordFault.message : RecordFault → String
  | cause fault => fault.message
  | time fault => fault.message
  | template fault => fault.message

namespace Record

/-- The message of a record. -/
def message (r : Record) : Except RecordFault String :=
  (fillTemplate r.template r.arguments).mapError .template

/-- A file name without its extension. Dots at the beginning start no extension. -/
def stem (name : List Char) : List Char :=
  let reversed := name.reverse
  match Text.cutAt '.' reversed with
  | (_, some before) => if before.all (· == '.') then name else before.reverse
  | (_, none) => name

/-- The module of a record: the file name of its path without the extension. -/
def moduleName (r : Record) : String :=
  String.ofList (stem ((Text.splitAt '/' r.path.toList).getLast?.getD []))

/-- The function and the line of a record. -/
def place (r : Record) : String := r.function ++ ":" ++ toString r.line

/-- The name of the level with blanks after it up to a width of eight. -/
def paddedLevel (r : Record) : String :=
  r.level.name ++ String.ofList (List.replicate (8 - r.level.name.length) ' ')

/-- A line with the error after it, on a line of its own. -/
def withCause (r : Record) (line : String) : String :=
  match r.cause? with
  | none => line
  | some c => (if line.toList.getLast? = some '\n' then line else line ++ "\n") ++ c.summary

/-- The members of a record as an object. -/
def members (r : Record) (timestamp message : String) : Table :=
  let own : Table :=
    [("timestamp", .text timestamp), ("level", .text r.level.name), ("logger", .text r.channel),
      ("message", .text message), ("location", .text (r.moduleName ++ ":" ++ r.place))]
  let all := r.fields.foldl (fun t f => Table.put f.1 f.2 t) own
  match r.cause? with
  | none => all
  | some c =>
    Table.put "exception"
      (.table [("type", .text c.kind), ("message", .text c.text), ("traceback", .text c.summary)])
      all

end Record

/-- A layout of log records. -/
inductive Layout where
  /-- Level, channel and message. -/
  | simple
  /-- Time, level, channel with place, and message. -/
  | detailed
  /-- A JSON object. -/
  | json
  deriving DecidableEq, Repr

namespace Layout

/-- The name that a layout is chosen by. -/
def name : Layout → String
  | simple => "simple"
  | detailed => "detailed"
  | json => "json"

/-- The layout of a name. -/
def ofName? (name : String) : Option Layout :=
  [simple, detailed, json].find? (·.name = name)

/-- Fields of a line, with bars between them. -/
def barred (fields : List String) : String := String.intercalate " | " fields

/-- A record in a layout. An object tells the time first, a line the message. -/
def render (layout : Layout) (r : Record) : Except RecordFault String :=
  match layout with
  | simple => do
    let message ← r.message
    return r.withCause (barred [r.paddedLevel, r.channel, message])
  | detailed => do
    let message ← r.message
    let time ← (plainTime r.time).mapError .time
    return r.withCause (barred [time, r.paddedLevel, r.channel ++ ":" ++ r.place, message])
  | json => do
    let timestamp ← (preciseTime r.time).mapError .time
    let message ← r.message
    return Json.render (.table (r.members timestamp message))

end Layout

end MimeDatabase.Log
