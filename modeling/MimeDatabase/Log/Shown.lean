import MimeDatabase.Config.Value
import MimeDatabase.Number.Decimal
import MimeDatabase.Text.Quoted

/-!
# Values in messages

How a value is shown in the message of a log record: a text as it is, or quoted where it is inside
another value or quoting is asked for.
-/

namespace MimeDatabase.Value

/-- A text between quotes, by its code points. One that is no character is escaped. -/
def quotedCodes (codes : List Nat) : String :=
  let q := Text.quoteFor (codes.map Char.ofNat)
  let escape (n : Nat) :=
    if n.isValidChar then Text.quoteChar q (Char.ofNat n) else '\\' :: 'u' :: Text.hex 4 n
  String.ofList (q :: codes.flatMap escape ++ [q])

mutual

/-- A value with all its texts quoted. -/
def quoted : Value → String
  | .null => "None"
  | .bool b => if b then "True" else "False"
  | .int n => toString n
  | .float x => x.text
  | .text s => Text.quote s
  | .brokenText codes => quotedCodes codes
  | .moment s => s
  | .list items => "[" ++ quotedItems items ++ "]"
  | .table fields => "\x7b" ++ quotedFields fields ++ "\x7d"

/-- The items of a list, without the brackets. -/
def quotedItems : List Value → String
  | [] => ""
  | [v] => quoted v
  | v :: rest => quoted v ++ ", " ++ quotedItems rest

/-- The fields of a table, without the braces. -/
def quotedFields : List (String × Value) → String
  | [] => ""
  | [(key, v)] => Text.quote key ++ ": " ++ quoted v
  | (key, v) :: rest => Text.quote key ++ ": " ++ quoted v ++ ", " ++ quotedFields rest

end

/-- A value as it is shown by itself. -/
def shown : Value → String
  | .text s => s
  | v => v.quoted

/-- A character outside ASCII by its escape. -/
def asciiChar (c : Char) : List Char :=
  let n := c.toNat
  if n < 0x80 then [c]
  else if n < 0x100 then '\\' :: 'x' :: Text.hex 2 n
  else if n < 0x10000 then '\\' :: 'u' :: Text.hex 4 n
  else '\\' :: 'U' :: Text.hex 8 n

/-- A value with all its texts quoted, in ASCII. -/
def quotedAscii (v : Value) : String := String.ofList (v.quoted.toList.flatMap asciiChar)

/-- The name of the kind of a value, as messages call it. -/
def kindName : Value → String
  | .null => "NoneType"
  | .bool _ => "bool"
  | .int _ => "int"
  | .float _ => "float"
  | .text _ | .brokenText _ => "str"
  | .moment _ => "datetime"
  | .list _ => "list"
  | .table _ => "dict"

end MimeDatabase.Value
