import MimeDatabase.Text.Printable

/-!
# Quoted texts and byte strings

How a text or a byte string is shown inside a message: between quotes, with escapes for
backslashes, for the quote itself and for everything that has no printed form. The quote is the
single one unless the text holds single quotes and no double ones.
-/

namespace MimeDatabase.Text

/-- The hexadecimal digits of a number, least significant first, at least `width` of them. -/
def hexDigitsRev (width n : Nat) : List Char :=
  match width with
  | 0 => []
  | w + 1 => Nat.digitChar (n % 16) :: hexDigitsRev w (n / 16)

/-- The last `width` hexadecimal digits of a number, in lower case. -/
def hex (width n : Nat) : List Char := (hexDigitsRev width n).reverse

/-- The single quote. -/
def singleQuote : Char := '\x27'

/-- The double quote. -/
def doubleQuote : Char := '\x22'

/-- The quote that a text with the given characters is put between. -/
def quoteFor (cs : List Char) : Char :=
  if cs.contains singleQuote && !cs.contains doubleQuote then doubleQuote else singleQuote

/-- The escape that is shared by texts and byte strings, for the quote in use. -/
def commonEscape? (quote c : Char) : Option (List Char) :=
  if c = quote || c = '\\' then some ['\\', c]
  else if c = '\t' then some ['\\', 't']
  else if c = '\n' then some ['\\', 'n']
  else if c = '\r' then some ['\\', 'r']
  else none

/-- A character as it is written between quotes. -/
def quoteChar (quote c : Char) : List Char :=
  match commonEscape? quote c with
  | some e => e
  | none =>
    if isPrintable c then [c]
    else if c.toNat < 0x100 then '\\' :: 'x' :: hex 2 c.toNat
    else if c.toNat < 0x10000 then '\\' :: 'u' :: hex 4 c.toNat
    else '\\' :: 'U' :: hex 8 c.toNat

/-- A text between quotes. -/
def quoted (cs : List Char) : List Char :=
  let q := quoteFor cs
  q :: cs.flatMap (quoteChar q) ++ [q]

/-- A text between quotes, as a string. -/
def quote (s : String) : String := String.ofList (quoted s.toList)

/-- A byte as it is written between quotes. -/
def quoteByte (quote : Char) (b : UInt8) : List Char :=
  let c := Char.ofNat b.toNat
  match commonEscape? quote c with
  | some e => e
  | none => if 0x20 ≤ b && b < 0x7F then [c] else '\\' :: 'x' :: hex 2 b.toNat

/-- A byte string between quotes, with the mark `b` before them. -/
def quotedBytes (bs : List UInt8) : List Char :=
  let q := quoteFor (bs.map (fun b => Char.ofNat b.toNat))
  'b' :: q :: bs.flatMap (quoteByte q) ++ [q]

/-- Quoted texts between brackets. -/
def quoteList (ss : List String) : String :=
  "[" ++ String.intercalate ", " (ss.map quote) ++ "]"

end MimeDatabase.Text
