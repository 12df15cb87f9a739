import MimeDatabase.Config.Toml.Fault
import MimeDatabase.Config.Value

/-!
# The tree of a TOML document

A document becomes a tree of tables, lists and plain values. Entries go into the table that the last
header opened; it is held as a path from the root, with a step for each table on the way and one for
the last table of each array.
-/

namespace MimeDatabase.Toml

/-- What a date or a time of day tells. -/
inductive MomentKind where
  | date
  | dateTime
  | time
  deriving DecidableEq, Repr

/-- A value of a document. -/
inductive Node where
  | bool (value : Bool)
  | int (value : Int)
  | float (value : Double)
  /-- A text by its code points, which need not all be those of characters. -/
  | text (codes : List Nat)
  /-- A date, a time of day or both, as it is written. -/
  | moment (kind : MomentKind) (written : String)
  | list (items : List Node)
  | table (inLine : Bool) (fields : List (String × Node))
  deriving Repr

instance : Inhabited Node := ⟨.table false []⟩

/-- The fields of a table. -/
abbrev Fields := List (String × Node)

namespace Fields

/-- The value of a key. -/
def get? : Fields → String → Option Node
  | [], _ => none
  | field :: rest, key => if field.1 = key then some field.2 else get? rest key

/-- Puts a value in. A key that is there already keeps its place. -/
def put (key : String) (value : Node) : Fields → Fields
  | [] => [(key, value)]
  | field :: rest =>
    if field.1 = key then (key, value) :: rest else field :: put key value rest

end Fields

/-- The code points of a text. -/
def codesOf (cs : List Char) : List Nat := cs.map Char.toNat

/-- The text of code points, if all of them are those of characters. -/
def textOf? (codes : List Nat) : Option String :=
  if codes.all Nat.isValidChar then some (String.ofList (codes.map Char.ofNat)) else none

namespace Node

/-- The empty table. -/
def empty : Node := .table false []

/-- The kind of a value. -/
def kind : Node → Kind
  | bool _ => .bool
  | int _ => .int
  | float _ => .float
  | text _ => .text
  | moment .date _ => .date
  | moment .dateTime _ => .dateTime
  | moment .time _ => .time
  | list _ => .list
  | table false _ => .table
  | table true _ => .inlineTable

mutual

/-- A value of a document as a configuration value. -/
def toValue : Node → Value
  | bool b => .bool b
  | int n => .int n
  | float x => .float x
  | text codes =>
    match textOf? codes with
    | some s => .text s
    | none => .brokenText codes
  | moment _ written => .moment written
  | list items => .list (toValues items)
  | table _ fields => .table (toTable fields)

/-- The items of a list as configuration values. -/
def toValues : List Node → List Value
  | [] => []
  | n :: ns => n.toValue :: toValues ns

/-- The fields of a table as configuration values. -/
def toTable : List (String × Node) → Table
  | [] => []
  | (key, n) :: fields => (key, n.toValue) :: toTable fields

end

/-! ## Entries -/

/-- Whether a text holds another one. -/
def holds (part : List Nat) : List Nat → Bool
  | [] => part.isEmpty
  | c :: cs => part.isPrefixOf (c :: cs) || holds part cs

/-- The fault of looking a key up in a value that is no table, in order to put a table under it if
it is missing. -/
def keyFault (key : String) : Node → Breakdown
  | list _ => .listKey
  | text codes => if holds (codesOf key.toList) codes then .textKey else .textAssignment
  | n => .noKeys n.kind

/-- The value of a key, an empty table if it is missing, and what the value then has its key
in. -/
def entry (key : String) : Node → Except Fault (Node × (Node → Node))
  | table inLine fields =>
    .ok ((Fields.get? fields key).getD empty, fun n => table inLine (Fields.put key n fields))
  | n => breakOff (keyFault key n)

/-- The last entry of a list or text, and what it is put back into; the last entry of a text is not
replaced. -/
def lastEntry : Node → Except Fault (Node × (Node → Node))
  | list items =>
    match items.getLast? with
    | some n => .ok (n, fun n => list (items.dropLast ++ [n]))
    | none => breakOff .pastList
  | text codes =>
    match codes.getLast? with
    | some c => .ok (text [c], fun _ => text codes)
    | none => breakOff .pastText
  | n => breakOff (.noEntries n.kind)

/-! ## Paths -/

/-- A step down from a value: to the value of a key, or to the last entry. -/
inductive Step where
  | key (name : String)
  | last
  deriving DecidableEq, Repr

/-- Changes the value at the end of a path. -/
def changeAt {α : Type} (change : Node → Except Fault (Node × α)) :
    List Step → Node → Except Fault (Node × α)
  | [], n => change n
  | step :: path, n => do
    let (child, putBack) ← match step with
      | .key name => n.entry name
      | .last => n.lastEntry
    let (child, a) ← changeAt change path child
    return (putBack child, a)

/-! ## Opening tables -/

/-- The names of the tables that were opened only on the way to others, in the order of opening. -/
abbrev Implicit := List String

/-- The value of a key of a table on the way of a header, or at its end. At the end a table must be
new, or have been opened only on the way; the header of an array appends a table to the list that is
there already. -/
def openKey (array atEnd : Bool) (implicit : Implicit) (key : String) (fields : Fields) :
    Except Fault (Node × Implicit) :=
  match Fields.get? fields key with
  | none =>
    .ok (if array && atEnd then list [empty] else empty,
      if atEnd then implicit else implicit ++ [key])
  | some n =>
    if !atEnd then .ok (n, implicit)
    else if implicit.contains key then
      if array then .error .duplicate else .ok (n, implicit.erase key)
    else if !array then .error .duplicate
    else
      match n with
      | list items => .ok (list (items ++ [empty]), implicit)
      | n => breakOff (.noAppending n.kind)

/-- The value of a key of the last table of a list. It may be there already. -/
def openInLast (array atEnd : Bool) (key : String) : Node → Except Fault (Node × (Node → Node))
  | table inLine fields =>
    let fresh := if array && atEnd then list [empty] else empty
    .ok ((Fields.get? fields key).getD fresh, fun n => table inLine (Fields.put key n fields))
  | n => breakOff (keyFault key n)

/-- Opens the tables of a header, one below the other: the tree after it, the path to the last one,
and the tables that are opened only on the way. Below a list, the last entry of the list is meant.
In the header of an array the last entry is meant at every name. -/
def openTables (array : Bool) (implicit : Implicit) :
    List String → Node → Except Fault (Node × List Step × Implicit)
  | [], n => .ok (n, [], implicit)
  | key :: rest, n => do
    if key = "" then throw Fault.badHeader
    let (child, putBack, steps, implicit) ← match n with
      | table inLine fields => do
        let (child, implicit) ← openKey array rest.isEmpty implicit key fields
        pure (child, fun n => table inLine (Fields.put key n fields), [Step.key key], implicit)
      | n => do
        let (last, putLast) ← n.lastEntry
        let (child, putBack) ← last.openInLast array rest.isEmpty key
        pure (child, fun n => putLast (putBack n), [Step.last, Step.key key], implicit)
    if array && !(child matches table ..) then
      let (last, putLast) ← child.lastEntry
      let (last, path, implicit) ← openTables array implicit rest last
      return (putBack (putLast last), steps ++ Step.last :: path, implicit)
    else
      let (child, path, implicit) ← openTables array implicit rest child
      return (putBack child, steps ++ path, implicit)

end Node

end MimeDatabase.Toml
