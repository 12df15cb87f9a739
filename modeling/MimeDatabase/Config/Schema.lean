import MimeDatabase.Config.Value
import MimeDatabase.Settings
import MimeDatabase.Text.Numeral

/-!
# Reading settings from values

Settings are read from a table. Every fault is reported, with the place where it is: the faults of
known keys in the order of the settings, and after them the unknown keys in the order of the table.
A table without faults yields settings, and keys that are missing yield the usual ones.
-/

namespace MimeDatabase.Schema

/-- Why a value cannot be taken. -/
inductive Fault where
  | notInteger
  | unreadableInteger
  | oversizedInteger
  | fractional
  | notFinite
  | notAbove (bound : Int)
  | below (bound : Int)
  | notText
  /-- A text holds code points that are no characters. -/
  | brokenText
  | emptyText
  | notList
  | notOneOf (names : List String)
  | notTable (name : String)
  | unknownKey
  deriving DecidableEq, Repr

namespace Fault

/-- The code of a fault. -/
def code : Fault → String
  | notInteger => "int_type"
  | unreadableInteger => "int_parsing"
  | oversizedInteger => "int_parsing_size"
  | fractional => "int_from_float"
  | notFinite => "finite_number"
  | notAbove _ => "greater_than"
  | below _ => "greater_than_equal"
  | notText => "string_type"
  | brokenText => "string_unicode"
  | emptyText => "string_too_short"
  | notList => "list_type"
  | notOneOf _ => "literal_error"
  | notTable _ => "model_type"
  | unknownKey => "extra_forbidden"

/-- Names between quotes, with commas and an `or` before the last. -/
def alternatives : List String → String
  | [] => ""
  | [a] => "'" ++ a ++ "'"
  | [a, b] => "'" ++ a ++ "' or '" ++ b ++ "'"
  | a :: rest => "'" ++ a ++ "', " ++ alternatives rest

/-- The text of a fault. -/
def message : Fault → String
  | notInteger => "Input should be a valid integer"
  | unreadableInteger =>
    "Input should be a valid integer, unable to parse string as an integer"
  | oversizedInteger => "Unable to parse input string as an integer, exceeded maximum size"
  | fractional => "Input should be a valid integer, got a number with a fractional part"
  | notFinite => "Input should be a finite number"
  | notAbove bound => "Input should be greater than " ++ toString bound
  | below bound => "Input should be greater than or equal to " ++ toString bound
  | notText => "Input should be a valid string"
  | brokenText =>
    "Input should be a valid string, unable to parse raw data as a unicode string"
  | emptyText => "String should have at least 1 character"
  | notList => "Input should be a valid list"
  | notOneOf names => "Input should be " ++ alternatives names
  | notTable name => "Input should be a valid dictionary or instance of " ++ name
  | unknownKey => "Extra inputs are not permitted"

end Fault

/-- A step into a value. -/
inductive Step where
  | key (name : String)
  | index (n : Nat)
  deriving DecidableEq, Repr

/-- A fault and the steps to its place. -/
structure Problem where
  place : List Step
  fault : Fault
  deriving DecidableEq, Repr

/-- What a value is read as, or its problems. -/
abbrev Reading (α : Type) := Except (List Problem) α

/-- A value with a single fault. -/
def refuse {α : Type} (fault : Fault) : Reading α := .error [⟨[], fault⟩]

/-- The problems of a reading. -/
def problems {α : Type} : Reading α → List Problem
  | .ok _ => []
  | .error ps => ps

/-- A reading one step further in. -/
def under {α : Type} (step : Step) (r : Reading α) : Reading α :=
  r.mapError fun ps => ps.map fun p => { p with place := step :: p.place }

/-- The value of a key; the usual one if the key is missing. -/
def field {α : Type} (t : Table) (key : String) (usual : α) (read : Value → Reading α) :
    Reading α :=
  match t.get? key with
  | none => .ok usual
  | some v => under (.key key) (read v)

/-- The problems of all keys that are not known. -/
def unknownKeys (known : List String) (t : Table) : List Problem :=
  (t.filter fun f => !known.contains f.1).map fun f => ⟨[.key f.1], .unknownKey⟩

/-! ## Integers -/

/-- Whether a numeral without zeros before it may begin with a character. -/
def beginsNumeral (c : Char) : Bool := ('1' ≤ c && c ≤ '9') || c = '-'

/-- What follows zeros and underscores, of which `last` is the last: a numeral, the last of them if
nothing is left, or with it if a point comes next. -/
def afterZeros? (last : Char) : List Char → Option (List Char)
  | [] => some [last]
  | c :: cs =>
    if c = '0' || c = '_' then afterZeros? c cs
    else if beginsNumeral c then some (c :: cs)
    else if c = '.' then some (last :: c :: cs)
    else none

/-- A numeral without the zeros at its beginning. -/
def withoutZeros? : List Char → Option (List Char)
  | [] => none
  | c :: cs =>
    if c = '0' then afterZeros? c cs else if beginsNumeral c then some (c :: cs) else none

/-- A numeral without a point and zeros after it; other places are refused. -/
def withoutPlaces? (cs : List Char) : Option (List Char) :=
  match Text.cutAt '.' cs with
  | (whole, some places) =>
    if !places.isEmpty && places.all (· == '0') then some whole else none
  | (_, none) => some cs

/-- Whether two neighbours of a text are underscores. -/
def hasDoubleUnderscore : List Char → Bool
  | '_' :: '_' :: _ => true
  | _ :: cs => hasDoubleUnderscore cs
  | [] => false

/-- A numeral without its underscores, if each of them stands between two other characters. -/
def withoutUnderscores (cs : List Char) : List Char :=
  if cs.head? = some '_' || cs.getLast? = some '_' || hasDoubleUnderscore cs then cs
  else cs.filter (· ≠ '_')

/-- A numeral without white space around it, a plus sign, zeros at its beginning, zero places and
underscores. -/
def plainNumeral? (cs : List Char) : Option (List Char) := do
  let body ← match Text.stripBy Text.isNumeralBlank cs with
    | '+' :: '-' :: _ => none
    | '+' :: cs => some cs
    | cs => some cs
  return withoutUnderscores (← withoutPlaces? (← withoutZeros? body))

/-- The integer that a minus sign or none and ASCII digits spell. Whether there are too many of them
is told before anything that follows them counts. -/
def readPlainNumeral (cs : List Char) : Reading Int :=
  let (negative, body) := match cs with
    | '-' :: cs => (true, cs)
    | cs => (false, cs)
  let digits := body.takeWhile Char.isDigit
  if digits.head? = some '0' then if body.length = 1 then .ok 0 else refuse .unreadableInteger
  else if Text.digitLimit < digits.length + (if negative then 1 else 0) then
    refuse .oversizedInteger
  else if digits.isEmpty || digits.length < body.length then refuse .unreadableInteger
  else
    let n : Int := Text.numberOf (digits.map fun c => c.toNat - 48)
    .ok (if negative then -n else n)

/-- The integer that a text spells: a sign, ASCII digits and possibly zero places. -/
def readNumeral (s : String) : Reading Int :=
  match plainNumeral? s.toList with
  | none => refuse .unreadableInteger
  | some cs => readPlainNumeral cs

/-- The integer that a value stands for. Truth values are zero and one; a floating-point number has
to be whole and less than `2 ^ 63` in size. -/
def readInt : Value → Reading Int
  | .int n => .ok n
  | .bool b => .ok (if b then 1 else 0)
  | .float x =>
    if !x.isFinite then refuse .notFinite
    else
      match x.toInt? with
      | none => refuse .fractional
      | some n => if n.natAbs < powerOfTwo 63 then .ok n else refuse .oversizedInteger
  | .text s => readNumeral s
  | .brokenText _ => refuse .brokenText
  | _ => refuse .notInteger

/-- An integer above a bound. -/
def readAbove (bound : Int) (v : Value) : Reading Nat := do
  let n ← readInt v
  if bound < n then return n.toNat else refuse (.notAbove bound)

/-- An integer that is not below a bound. -/
def readFrom (bound : Int) (v : Value) : Reading Nat := do
  let n ← readInt v
  if bound ≤ n then return n.toNat else refuse (.below bound)

/-! ## Texts -/

/-- A text. -/
def readText : Value → Reading String
  | .text s => .ok s
  | .brokenText _ => refuse .brokenText
  | _ => refuse .notText

/-- A text that is not empty. -/
def readFilledText (v : Value) : Reading String := do
  let s ← readText v
  if s = "" then refuse .emptyText else return s

/-- A text that may be missing. -/
def readOptionalText : Value → Reading (Option String)
  | .null => .ok none
  | v => (readText v).map some

/-- Reads the items of a list from an index on. -/
def readItems (n : Nat) : List Value → Reading (List String)
  | [] => .ok []
  | v :: rest =>
    match under (.index n) (readText v), readItems (n + 1) rest with
    | .ok s, .ok ss => .ok (s :: ss)
    | first, others => .error (problems first ++ problems others)

/-- A list of texts; a text alone is a list of one. -/
def readTexts : Value → Reading (List String)
  | .list items => readItems 0 items
  | .text s => .ok [s]
  | .brokenText codes => readItems 0 [.brokenText codes]
  | _ => refuse .notList

/-- One of several choices, by its name as `normal` brings it into the usual case. -/
def readChoice {α : Type} (names : List String) (normal : List Char → List Char)
    (ofName? : String → Option α) (v : Value) : Reading α :=
  match v with
  | .brokenText _ => refuse .brokenText
  | .text s =>
    let name := String.ofList (normal s.toList)
    match if names.contains name then ofName? name else none with
    | some a => .ok a
    | none => refuse (.notOneOf names)
  | _ => refuse (.notOneOf names)

/-! ## Settings -/

/-- The names of the levels that can be set. -/
def levelNames : List String := ["DEBUG", "INFO", "WARNING", "ERROR"]

/-- The names of the layouts. -/
def layoutNames : List String := ["simple", "detailed", "json"]

/-- The settings of logging from a table. -/
def readLogging (t : Table) : Reading LoggingSettings :=
  let usual := LoggingSettings.default
  let level := field t "level" usual.level
    (readChoice levelNames Text.upper Log.Level.ofName?)
  let layout := field t "format" usual.layout
    (readChoice layoutNames Text.lower Log.Layout.ofName?)
  let file := field t "file" usual.file readOptionalText
  match level, layout, file, unknownKeys ["level", "format", "file"] t with
  | .ok level, .ok layout, .ok file, [] => .ok ⟨level, layout, file⟩
  | _, _, _, unknown =>
    .error (problems level ++ problems layout ++ problems file ++ unknown)

/-- The settings of a database from a table. -/
def readDatabase (t : Table) : Reading DatabaseSettings :=
  let usual := DatabaseSettings.default
  let dirs := field t "data_dirs" usual.dataDirs readTexts
  let sniff := field t "max_sniff_bytes" usual.maxSniffBytes (readAbove 0)
  let depth := field t "alias_max_depth" usual.aliasMaxDepth (readFrom 1)
  let icon := field t "default_generic_icon" usual.defaultGenericIcon readFilledText
  let known := ["data_dirs", "max_sniff_bytes", "alias_max_depth", "default_generic_icon"]
  match dirs, sniff, depth, icon, unknownKeys known t with
  | .ok dirs, .ok sniff, .ok depth, .ok icon, [] => .ok ⟨dirs, sniff, depth, icon⟩
  | _, _, _, _, unknown =>
    .error (problems dirs ++ problems sniff ++ problems depth ++ problems icon ++ unknown)

/-- A section that has to be a table. -/
def section? {α : Type} (name : String) (read : Table → Reading α) : Value → Reading α
  | .table t => read t
  | _ => refuse (.notTable name)

/-- All settings from a table. -/
def readSettings (t : Table) : Reading Settings :=
  let usual := Settings.default
  let logging := field t "logging" usual.logging (section? "LoggingConfig" readLogging)
  let database := field t "database" usual.database (section? "DatabaseConfig" readDatabase)
  match logging, database, unknownKeys ["logging", "database"] t with
  | .ok logging, .ok database, [] => .ok ⟨logging, database⟩
  | _, _, unknown => .error (problems logging ++ problems database ++ unknown)

end MimeDatabase.Schema
