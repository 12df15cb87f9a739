import MimeDatabase.Config.Value
import MimeDatabase.Number.Decimal
import MimeDatabase.Text.Case

/-!
# Environment variables

The environment is a list of variables in the order in which they were set. Those that begin with
the prefix of an application override its configuration: after the prefix come a section and, after
the first underscore, a key, both in any case.
-/

namespace MimeDatabase

/-- Environment variables with their values, in the order in which they were set. -/
abbrev Environment := List (String × String)

namespace Environment

/-- The value of a variable. -/
def get? : Environment → String → Option String
  | [], _ => none
  | v :: rest, name => if v.1 = name then some v.2 else get? rest name

/-- Sets a variable. One that is set already keeps its place. -/
def put (name value : String) : Environment → Environment
  | [] => [(name, value)]
  | v :: rest => if v.1 = name then (name, value) :: rest else v :: put name value rest

/-- Removes a variable. -/
def erase (env : Environment) (name : String) : Environment := env.filter (·.1 ≠ name)

/-! ## Converting values -/

/-- The truth value that a word stands for. -/
def truth? (value : List Char) : Option Bool :=
  let word := Text.lower value
  if word = "true".toList || word = "yes".toList then some true
  else if word = "false".toList || word = "no".toList then some false
  else none

/-- The number that a text spells: a floating-point number if it has a point, else an integer. -/
def number? (value : List Char) : Option Value :=
  if value.contains '.' then (Decimal.ofText? value).map fun d => .float d.toDouble
  else (Text.int? value).map .int

/-- The items between separators, without the white space around them; blank items are dropped. -/
def itemsAt (separator : Char) (value : List Char) : Value :=
  .list ((((Text.splitAt separator value).map Text.trim).filter (!·.isEmpty)).map
    fun item => .text (String.ofList item))

/-- The list that a text spells: items between commas or, without any comma, between colons. -/
def list? (value : List Char) : Option Value :=
  if value.contains ',' then some (itemsAt ',' value)
  else if value.contains ':' then some (itemsAt ':' value)
  else none

/-- The value that the text of a variable stands for: a truth value, a number, a list or, failing
all of these, the text itself. -/
def convert (value : String) : Value :=
  let cs := value.toList
  match truth? cs with
  | some b => .bool b
  | none =>
    match number? cs with
    | some n => n
    | none => (list? cs).getD (.text value)

/-! ## Overriding -/

/-- The prefix of the variables of an application. -/
def prefixOf (app : String) : List Char :=
  (Text.upper app.toList).map (fun c => if c = '-' then '_' else c) ++ ['_']

/-- The rest of a text after a given beginning. -/
def dropBeginning? : List Char → List Char → Option (List Char)
  | [], cs => some cs
  | _ :: _, [] => none
  | b :: bs, c :: cs => if b = c then dropBeginning? bs cs else none

/-- The section and the key that a variable of an application sets; `none` for all other
variables and for an empty key. -/
def target? (app name : String) : Option (String × String) :=
  match dropBeginning? (prefixOf app) name.toList with
  | none => none
  | some rest =>
    match Text.cutAt '_' (Text.lower rest) with
    | (_, none) | (_, some []) => none
    | (group, some key) => some (String.ofList group, String.ofList key)

/-- Puts a value in a section of a table. A missing section is made, and one that is no table is
left alone. -/
def putIn (config : Table) (group key : String) (value : Value) : Table :=
  match config.get? group with
  | none => Table.put group (.table [(key, value)]) config
  | some (.table fields) => Table.put group (.table (Table.put key value fields)) config
  | some _ => config

/-- Overrides a configuration with one variable. -/
def override (app : String) (config : Table) (v : String × String) : Table :=
  match target? app v.1 with
  | none => config
  | some (group, key) => putIn config group key (convert v.2)

/-- Overrides a configuration with all variables of an application. -/
def overrideAll (env : Environment) (app : String) (config : Table) : Table :=
  env.foldl (override app) config

end Environment

end MimeDatabase
