import MimeDatabase.Config.Toml.Fault
import MimeDatabase.Text.Alphanumeric
import MimeDatabase.Text.Cut
import MimeDatabase.Text.Blank

/-!
# Lines of a TOML document

A document is gone through character by character before it is cut into lines. Comments become
blanks, and so do the line ends inside an array, so that it is one line in the end. The line end
after the quotes that open a long string is dropped. Keys are checked on the way: they are words of
letters, digits, underscores and hyphens, or strings, with points between them, and an equals sign
follows them. A string on one line has to be closed there.

Quotes and backslashes before a character are looked at to tell what it means. Before the beginning
of the document lies its end.
-/

namespace MimeDatabase.Toml

/-- Whether a character is a quote. -/
def isQuote (c : Char) : Bool := c = '"' || c = '\x27'

/-- The part of a key that is read. -/
inductive KeyStage where
  /-- No key is read. -/
  | outside
  /-- A word or a string of a key. -/
  | word
  /-- What follows it. -/
  | after
  deriving DecidableEq, Repr

/-- The header that is open. -/
inductive Header where
  | none
  /-- A header of a table. -/
  | table
  /-- A header of an array of tables. -/
  | array
  deriving DecidableEq, Repr

/-- A document that is gone through up to a character: the characters before it as they are kept,
nearest first, and what they say about those that follow. -/
structure Scan where
  passed : List Char
  key : KeyStage
  /-- The key has a point. -/
  dotted : Bool
  /-- The quote of the string that is open. -/
  quote? : Option Char
  /-- A long string is open. -/
  long : Bool
  /-- The number of open arrays. -/
  depth : Int
  header : Header
  /-- Nothing but blanks is read of the line. -/
  fresh : Bool
  comment : Bool

namespace Scan

/-- Nothing is read yet. -/
def new : Scan := ⟨[], .outside, false, none, false, 0, .none, true, false⟩

/-- Keeps a character. -/
def keep (s : Scan) (c : Char) : Scan := { s with passed := c :: s.passed }

/-- The characters before a position, nearest first, as far as quotes and backslashes are looked for
there: those that are passed and, if they are nothing else, those from the end of the document on
back to the position. -/
def behind (s : Scan) (rest : List Char) : List Char :=
  if s.passed.all fun c => isQuote c || c = '\\' then s.passed ++ rest.reverse else s.passed

/-! ## Keys -/

/-- Goes on with a key: the next word begins unless a blank or a point comes first. -/
def resume (s : Scan) (ahead : List Char) : Except Fault Scan :=
  match ahead with
  | [] => breakOff .pastList
  | c :: _ => .ok (if !Text.isBlank c && c ≠ '.' then { s with key := .word } else s)

/-- Ends a key with its equals sign. -/
def endKey (s : Scan) (c : Char) : Except Fault Scan :=
  if c = '=' then .ok ({ s with key := .outside, dotted := false }.keep c) else .error .badKey

/-- Reads a character of a word of a key. After a point the word may be a string. -/
def readWord (s : Scan) (c : Char) : Except Fault Scan :=
  if Text.isBlank c then .ok ({ s with key := .after }.keep c)
  else if c = '.' then .ok ({ s with dotted := true }.keep c)
  else if Text.isAlphanumeric c || c = '_' || c = '-' then .ok (s.keep c)
  else if s.dotted && s.passed.head? = some '.' && isQuote c then
    .ok ({ s with quote? := some c }.keep c)
  else s.endKey c

/-- Reads a character after a word of a key. -/
def readAfterWord (s : Scan) (c : Char) (ahead : List Char) : Except Fault Scan :=
  if Text.isBlank c then
    if s.dotted then (s.keep c).resume ahead else .ok (s.keep c)
  else if c = '.' then ({ s with dotted := true }.keep c).resume ahead
  else s.endKey c

/-- Reads a character of a string of a key. -/
def readKeyString (s : Scan) (q c : Char) : Scan :=
  if c = q && !Text.endsOddly (· == '\\') s.passed.reverse then
    { s with key := .after, quote? := none }.keep c
  else s.keep c

/-- Reads a character of a key. -/
def readKey (s : Scan) (c : Char) (ahead : List Char) : Except Fault Scan :=
  if c = '\n' then .error .badKey
  else
    match s.quote? with
    | some q => .ok (s.readKeyString q c)
    | none => if s.key = .word then s.readWord c else s.readAfterWord c ahead

/-! ## Strings -/

/-- Opens or closes a string; the third quote in a row opens or closes a long one. -/
def turn (s : Scan) (c : Char) (third : Bool) : Scan :=
  let long := if third then !s.long else s.long
  let isOpen := if third then long else s.quote?.isNone
  { s with long, quote? := if isOpen then some c else none }

/-- Reads an apostrophe, unless it stands between quotation marks. -/
def readApostrophe (s : Scan) (rest : List Char) : Scan :=
  if s.quote? = some '"' then s
  else s.turn '\x27' (((s.behind rest).take 2) == ['\x27', '\x27'])

/-- Reads a quotation mark, unless it stands between apostrophes. Backslashes before it, or before
three in a row, keep it from opening or closing a string if their number is odd. -/
def readQuotation (s : Scan) (rest : List Char) : Scan :=
  if s.quote? = some '\x27' then s
  else
    let before := s.behind rest
    let marks := ((before.take 2).takeWhile (· == '"')).length
    let escaped :=
      marks ≠ 1 && ((before.drop marks).takeWhile (· == '\\')).length % 2 == 1
    if escaped then s else s.turn '"' (marks == 2)

/-! ## Headers, arrays and lines -/

/-- Reads an opening bracket outside strings and headers. At the beginning of a line it opens a
header. -/
def openBracket (s : Scan) (ahead : List Char) : Scan :=
  if !s.fresh then { s with depth := s.depth + 1 }
  else { s with header := if ahead.head? = some '[' then .array else .table }

/-- Reads a closing bracket outside strings. -/
def closeBracket (s : Scan) : Scan :=
  match s.header with
  | .table => { s with header := .none }
  | .array => if s.passed.head? = some ']' then { s with header := .none } else s
  | .none => { s with depth := s.depth - 1 }

/-- The line end inside a long string. After two equal quotes it becomes such a quote, and the one
before them a blank: so the line end after three opening quotes is dropped. -/
def keepLongLineEnd (s : Scan) : Scan :=
  match s.passed with
  | a :: b :: cs =>
    if isQuote a && a = b then
      match cs with
      | c :: cs => { s with passed := a :: a :: b :: (if c = a then ' ' else c) :: cs }
      | [] => s.keep a
    else s.keep '\n'
  | _ => s.keep '\n'

/-- Reads a line end. -/
def readLineEnd (s : Scan) : Except Fault Scan :=
  let s := { s with comment := false }
  if s.long then .ok s.keepLongLineEnd
  else if s.quote?.isSome then .error .openString
  else if s.depth ≠ 0 then .ok (s.keep ' ')
  else .ok ({ s with fresh := true }.keep '\n')

/-- Keeps a character; at the beginning of a line it may begin a key. -/
def keepOnLine (s : Scan) (c : Char) : Except Fault Scan :=
  if !s.fresh || c = ' ' || c = '\t' then .ok (s.keep c)
  else if s.header ≠ .none then .ok ({ s with fresh := false }.keep c)
  else if c = '=' then .error .badKey
  else .ok ({ s with fresh := false, key := .word }.keep c)

/-- Reads a character outside keys and comments. -/
def readOutside (s : Scan) (c : Char) (ahead : List Char) : Except Fault Scan :=
  if c = '\n' then s.readLineEnd
  else if c = '\x27' then (s.readApostrophe (c :: ahead)).keepOnLine c
  else if c = '"' then (s.readQuotation (c :: ahead)).keepOnLine c
  else if s.quote?.isSome then s.keepOnLine c
  else if c = ']' then s.closeBracket.keepOnLine c
  else if s.header ≠ .none then s.keepOnLine c
  else if c = '#' then { s with comment := true }.keepOnLine ' '
  else if c = '[' then (s.openBracket ahead).keepOnLine c
  else s.keepOnLine c

/-- Reads a character. -/
def step (s : Scan) (c : Char) (ahead : List Char) : Except Fault Scan :=
  if s.comment && c ≠ '\n' then .ok (s.keep ' ')
  else if s.key ≠ .outside then s.readKey c ahead
  else s.readOutside c ahead

/-- Goes through some characters. -/
def run (s : Scan) : List Char → Except Fault Scan
  | [] => .ok s
  | c :: ahead => do run (← s.step c ahead) ahead

/-- The lines of a document that is gone through to its end. -/
def finish (s : Scan) : Except Fault (List (List Char)) :=
  if s.key ≠ .outside then .error .badKey
  else if s.quote?.isSome then .error .openString
  else .ok (Text.splitAt '\n' s.passed.reverse)

end Scan

/-- The lines of a document. -/
def lines (document : List Char) : Except Fault (List (List Char)) := do
  (← Scan.new.run document).finish

end MimeDatabase.Toml
