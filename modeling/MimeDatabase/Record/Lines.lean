import MimeDatabase.Log.Event
import MimeDatabase.Record.Basic
import MimeDatabase.Text.Lines

/-!
# Record files

A record file is read line by line. Blank lines and comments are passed over, and a line that is no
record is reported with its number and skipped, so no line affects another one.
-/

namespace MimeDatabase.Record

/-- What a file yields: its records, and the faults of the other lines with the line numbers. -/
structure Outcome (α : Type) where
  items : List α
  faults : List (Nat × Fault)

/-- Whether a trimmed line is passed over. -/
def isIgnored (line : List Char) : Bool := line.isEmpty || line.head? == some '#'

/-- The record lines of a text, trimmed, with their numbers; the first line has the number given. -/
def recordLines (number : Nat) : List (List Char) → List (Nat × String)
  | [] => []
  | raw :: rest =>
    let line := Text.trim raw
    if isIgnored line then recordLines (number + 1) rest
    else (number, String.ofList line) :: recordLines (number + 1) rest

/-- Reads every record line with one reader. -/
def readNumbered {α : Type} (read : String → Except Fault α) (text : String) :
    List (Nat × Except Fault α) :=
  (recordLines 1 (Text.lines text.toList)).map fun l => (l.1, read l.2)

/-- Reads a text with one reader of lines. -/
def readText {α : Type} (read : String → Except Fault α) (text : String) : Outcome α :=
  let results := readNumbered read text
  { items := results.filterMap fun r => r.2.toOption
    faults := results.filterMap fun r =>
      match r.2 with
      | .ok _ => none
      | .error fault => some (r.1, fault) }

/-- What is logged while a text is read: the lines that are skipped. -/
def Outcome.events {α : Type} (o : Outcome α) (source : String) : List Log.Event :=
  o.faults.map fun f => .lineSkipped source f.1 f.2.message

end MimeDatabase.Record
