import MimeDatabase.Config.Toml.Item
import MimeDatabase.Config.Toml.Quoted

/-!
# Entries of a TOML document

A line puts a value under a key of a table. A key with points leads through further tables, which
are made where they are missing. A long string that is not closed on its line, alone or at the end
of an array, leaves the value open, and the lines that follow are part of it.
-/

namespace MimeDatabase.Toml

/-- A value that goes on in the next line: its key, its text so far, and whether a backslash joins
the next line to it. -/
structure Pending where
  key : String
  text : List Char
  joined : Bool

/-- A pending text at the end of a line. A backslash there, if it is not itself escaped, is dropped
and takes the line end along. -/
def Pending.atLineEnd (key : String) (text : List Char) : Pending :=
  if Text.endsOddly (· == '\\') text then ⟨key, text.dropLast, true⟩
  else ⟨key, text ++ ['\n'], false⟩

/-- How deep values may lie in each other, each array counting for two and each inline table for
three. -/
def depthLimit : Nat := 983

/-- Whether a value may stand in an array beside others: dates with and without a time may. -/
def sameKind (a b : Node) : Bool :=
  let group : Kind → Kind
    | .dateTime => .date
    | k => k
  group a.kind = group b.kind

/-! ## Keys -/

/-- The tables that a key leads through, and the key in the last of them. -/
def readKey (key : List Char) : Except Fault (List String × String) :=
  if key.contains '.' then
    match (keyParts key).reverse.dropWhile (·.isEmpty) with
    | [] => breakOff .pastList
    | last :: before =>
      .ok ((before.reverse.filter (!·.isEmpty)).map String.ofList, String.ofList (Text.trim last))
  else
    match key with
    | [] => breakOff .pastText
    | q :: _ =>
      if isQuote q && key.getLast? = some q then
        (resolveLetters (codesOf (Text.inner key))).map fun codes => ([], (textOf? codes).getD "")
      else .ok ([], String.ofList key)

/-- Puts a value under a key that is not there yet, or leaves it pending. -/
def putNew (key : String) (found : Except Pending Node) :
    Node → Except Fault (Node × Option Pending)
  | .table inLine fields =>
    match Fields.get? fields key, found with
    | some _, _ => .error .duplicate
    | none, .ok n => .ok (.table inLine (Fields.put key n fields), none)
    | none, .error pending =>
      if key = "" then breakOff .noKey else .ok (.table inLine fields, some pending)
  | _ => .error .duplicate

/-! ## Values -/

mutual

/-- Reads a value. The fuel is what is left of the depth; `tidy` tells whether the value is tidy
if it is a number, and an untidy number is refused. -/
def readValue (fuel : Nat) (tidy : Bool) (cs : List Char) : Except Fault Node :=
  match fuel with
  | 0 => breakOff .tooDeep
  | fuel + 1 =>
    match cs with
    | [] => .error .badValue
    | c :: _ =>
      if cs = "true".toList then .ok (.bool true)
      else if cs = "false".toList then .ok (.bool false)
      else if isQuote c then (readString c cs).map .text
      else if c = '[' then readArray fuel cs
      else if c = '\x7b' then (readInline fuel cs (.table true [])).map (·.1)
      else if looksLikeTime cs then
        if beginsWithTime cs then .ok (.moment .time (String.ofList cs)) else .error .badValue
      else do
        match ← date? cs with
        | some .date => return .moment .date (String.ofList cs)
        | some _ => return .moment .dateTime (String.ofList cs)
        | none => if tidy then readNumber cs else throw Fault.badValue

/-- Reads an array, the items of which have to be of one kind. -/
def readArray (fuel : Nat) (cs : List Char) : Except Fault Node :=
  match fuel with
  | 0 => breakOff .tooDeep
  | fuel + 1 => do
    let items ← (← arrayItems (Text.trim cs)).foldlM (fun (items : List Node) item => do
      let n ← readValue fuel true item
      if items.head?.any (!sameKind n ·) then throw Fault.mixedArray
      return items ++ [n]) []
    return .list items

/-- Reads the entries of an inline table into a value. They end with the first one that is left
open. -/
def readInline (fuel : Nat) (cs : List Char) (n : Node) : Except Fault (Node × Option Pending) :=
  match fuel with
  | 0 => breakOff .tooDeep
  | fuel + 1 => do
    (← tableEntries cs).foldlM (fun (n, pending?) entry =>
      if pending?.isSome then pure (n, pending?) else readEntry fuel entry n) (n, none)

/-- Reads a line that puts a value under a key of a value. -/
def readEntry (fuel : Nat) (line : List Char) (n : Node) : Except Fault (Node × Option Pending) :=
  match fuel with
  | 0 => breakOff .tooDeep
  | fuel + 1 => do
    let halves ← cutLine line
    let (tables, last) ← readKey halves.key
    let value := halves.value
    n.changeAt (fun n => do
      if ← opensLongText value then putNew last (.error (Pending.atLineEnd last value)) n
      else putNew last (.ok (← readValue fuel halves.tidy value)) n) (tables.map Node.Step.key)

end

end MimeDatabase.Toml
