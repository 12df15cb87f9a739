import MimeDatabase.Config.Value
import MimeDatabase.Number.Decimal
import MimeDatabase.Text.Quoted

/-!
# JSON text

Values as JSON in ASCII, on one line, with a blank after every comma and colon. A character outside
ASCII is escaped as its one or two units of sixteen bits.
-/

namespace MimeDatabase.Json

/-- The escape of a unit of sixteen bits. -/
def escapeUnit (n : Nat) : List Char := '\\' :: 'u' :: Text.hex 4 n

/-- A character inside a JSON string. -/
def escapeChar (c : Char) : List Char :=
  let n := c.toNat
  if c = Text.doubleQuote || c = '\\' then ['\\', c]
  else if c = '\n' then ['\\', 'n']
  else if c = '\r' then ['\\', 'r']
  else if c = '\t' then ['\\', 't']
  else if n = 8 then ['\\', 'b']
  else if n = 12 then ['\\', 'f']
  else if 0x20 ≤ n && n < 0x7F then [c]
  else if n < 0x10000 then escapeUnit n
  else escapeUnit (0xD800 + (n - 0x10000) / 0x400) ++ escapeUnit (0xDC00 + (n - 0x10000) % 0x400)

/-- A JSON string. -/
def string (s : String) : String :=
  String.ofList (Text.doubleQuote :: s.toList.flatMap escapeChar ++ [Text.doubleQuote])

/-- A JSON string by its code points. One that is no character is a unit by itself. -/
def codeString (codes : List Nat) : String :=
  let escape (n : Nat) := if n.isValidChar then escapeChar (Char.ofNat n) else escapeUnit n
  String.ofList (Text.doubleQuote :: codes.flatMap escape ++ [Text.doubleQuote])

/-- A floating-point number; infinity and undefined numbers have names. -/
def number : Double → String
  | .infinite negative => if negative then "-Infinity" else "Infinity"
  | .nan => "NaN"
  | x => x.text

mutual

/-- A value as JSON. -/
def render : Value → String
  | .null => "null"
  | .bool b => if b then "true" else "false"
  | .int n => toString n
  | .float x => number x
  | .text s | .moment s => string s
  | .brokenText codes => codeString codes
  | .list items => "[" ++ renderItems items ++ "]"
  | .table fields => "\x7b" ++ renderFields fields ++ "\x7d"

/-- The items of a JSON array, without the brackets. -/
def renderItems : List Value → String
  | [] => ""
  | [v] => render v
  | v :: rest => render v ++ ", " ++ renderItems rest

/-- The members of a JSON object, without the braces. -/
def renderFields : List (String × Value) → String
  | [] => ""
  | [(key, v)] => string key ++ ": " ++ render v
  | (key, v) :: rest => string key ++ ": " ++ render v ++ ", " ++ renderFields rest

end

end MimeDatabase.Json
