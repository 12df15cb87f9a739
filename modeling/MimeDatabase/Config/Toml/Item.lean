import MimeDatabase.Config.Toml.Line
import MimeDatabase.Config.Toml.Moment
import MimeDatabase.Config.Toml.Number

/-!
# Cutting arrays, tables and lines

How the text of an array is cut into its items, that of an inline table into its entries, and a line
into a key and a value. Each is first cut at all its separators, and then pieces are joined again
where a separator turns out to lie inside a string, an array or a table.
-/

namespace MimeDatabase.Toml

/-! ## Pieces between quotes -/

/-- Cuts pieces between apostrophes further, as long as their number is even: a piece between
quotation marks then belongs to the last of them. The pieces, and those that are left over. -/
def joinAcross (single : List (List Char)) : List (List Char) → List (List Char) × List (List Char)
  | [] => (single, [])
  | next :: rest =>
    if single.length % 2 = 0 then
      let last := (single.getLast?.getD []) ++ '"' :: next
      joinAcross (single.dropLast ++ Text.splitAt '\x27' last) rest
    else (single, next :: rest)

/-- The pieces of a line between its quotes; every second one is quoted. Quotation marks count
before apostrophes, unless an apostrophe comes first. -/
def quotedPieces (line : List Char) : List (List Char) :=
  let cut : List (List Char) → List (List Char)
    | [] => []
    | first :: rest => Text.splitAt '\x27' first ++ rest
  match Text.splitAt '"' line with
  | first :: next :: rest =>
    if first.contains '\x27' then
      let (single, others) := joinAcross (Text.splitAt '\x27' first) (next :: rest)
      single ++ cut others
    else cut (first :: next :: rest)
  | pieces => cut pieces

/-- The number of separators before the first piece that is not quoted and holds one. -/
def separatorsBefore (separator : List Char) (quoted : Bool) : List (List Char) → Nat
  | [] => 0
  | piece :: pieces =>
    let count := (Text.splitAtRun separator 0 piece).length - 1
    if !quoted && count ≠ 0 then 0
    else count + separatorsBefore separator (!quoted) pieces

/-! ## Keys and values -/

/-- Whether a text may be the value of a key. A text without a blank, quote or bracket before it has
to be a truth value, a number, a date or a time. -/
def mayBeValue (cs : List Char) : Except Fault Bool :=
  match cs with
  | [] => .ok true
  | c :: _ =>
    if [' ', '\t', '\x27', '"', '[', '\x7b'].contains c then .ok true
    else if Text.trim cs = "true".toList || Text.trim cs = "false".toList then .ok true
    else if (double? cs).isSome then .ok true
    else (date? cs).map fun date => date.isSome || looksLikeTime cs

/-- A line cut at an equals sign; `tidy` says whether all that was taken for its value on the way is
tidy as a number. -/
structure Halves where
  key : List Char
  value : List Char
  tidy : Bool

/-- Cuts a line at the equals sign before its value: the first one with a value after it, starting
from the given cut. -/
def settle (key value : List Char) (tidy : Bool) : Except Fault Halves :=
  match mayBeValue value with
  | .error fault => .error fault
  | .ok true => .ok ⟨key, value, tidy⟩
  | .ok false =>
    match _h : Text.cutAt '=' value with
    | (more, some rest) => settle (key ++ '=' :: more) rest (tidy && isTidy rest)
    | (_, none) => .error .badValue
termination_by value.length
decreasing_by exact Text.cutAt_length _h

/-- The key and the value of a line, which holds an equals sign. The underscores of a number right
after the equals sign are dropped at once. -/
def cutLine (line : List Char) : Except Fault Halves := do
  let count := 1 + separatorsBefore ['='] false (quotedPieces line)
  let pieces := Text.splitAt '=' line
  let count := min count (pieces.length - 1)
  let key := ['='].intercalate (pieces.take count)
  let value := ['='].intercalate (pieces.drop count)
  let short := if value.head?.any Char.isDigit then withoutMarks value else value
  let halves ←
    if ← mayBeValue short then pure ⟨key, short, isTidy value⟩
    else settle key value (isTidy value)
  return ⟨Text.trim halves.key, Text.trim halves.value, halves.tidy⟩

/-- The parts of a key with points outside quotes. The quotes themselves are dropped. -/
def keyParts (key : List Char) : List (List Char) :=
  let cut (quoted : Bool) (piece : List Char) := if quoted then [piece] else Text.splitAt '.' piece
  ((quotedPieces key).mapIdx fun n piece => cut (n % 2 == 1) piece).flatten

/-- Whether a text begins with a quote. -/
def beginsWithQuote (cs : List Char) : Bool := cs.head?.any isQuote

/-! ## Arrays -/

/-- Whether the first item of an array is a string. -/
def isTextArray (cs : List Char) : Bool := beginsWithQuote (Text.trim (Text.inner cs))

/-- The last item of an array of strings, with all that is joined to it: from the last piece on back
to one that begins with a quote. The pieces are given last first. -/
def lastTextItem : List (List Char) → Except Fault (List Char)
  | [] => .ok []
  | [item] => .ok item
  | item :: next :: rest =>
    match item with
    | [] => breakOff .pastText
    | c :: _ =>
      if isQuote c then .ok item else lastTextItem ((next ++ ',' :: item) :: rest)
termination_by items => items.length

/-- Whether a value begins a long string that is not closed, be it the last item of an array. -/
def opensLongText (cs : List Char) : Except Fault Bool := do
  if cs.length < 3 then return false
  let item ←
    if cs.head? = some '[' && cs.getLast? ≠ some ']' && isTextArray cs then
      lastTextItem (Text.splitAt ',' (Text.trim (cs.drop 1))).reverse
    else pure cs
  match item with
  | [] => breakOff .pastText
  | q :: rest =>
    if !isQuote q then return false
    match rest with
    | [] => breakOff .pastText
    | a :: rest =>
      if a ≠ q then return false
      match rest with
      | [] => breakOff .pastText
      | b :: _ =>
        return b = q && !(5 < item.length && item.reverse.take 3 == [q, q, q])

/-- Whether a piece of an array of strings is a string by itself: it ends with the quote that it
begins with, and no backslash keeps it open. -/
def isBoundedText (cs : List Char) : Bool :=
  match cs with
  | [] | [_] => true
  | q :: rest => rest.getLast? = some q && !Text.endsOddly (· == '\\') rest.dropLast

/-- Whether a piece of an array of strings goes on in the next one. -/
def isOpenText (cs : List Char) : Bool :=
  !isBoundedText cs ||
    match cs, cs.reverse with
    | a :: b :: c :: _, _ :: y :: z :: _ => a = b && b = c && y ≠ a && z ≠ a
    | _, _ => false

/-- Joins the pieces of an array of strings to its items, from a piece on. The last piece is left as
it is, unless something is joined to it. -/
def joinTexts (piece : List Char) (joined : Bool) :
    List (List Char) → Except Fault (List (List Char))
  | [] => if joined && isOpenText (Text.trim piece) then breakOff .pastList else .ok [piece]
  | next :: rest =>
    if isOpenText (Text.trim piece) then joinTexts (piece ++ ',' :: next) true rest
    else (joinTexts next false rest).map (piece :: ·)

/-- The tables of an array of tables, read from a character on: those in braces, with the number of
open braces and whether a string is open. `table?` holds the characters of the table that is read,
last first; after a table, one character is passed over, and then all up to a brace. -/
def tableItems (table? : Option (List Char)) (skip : Bool) (depth : Nat) (inText : Bool) :
    List Char → List (List Char)
  | [] => []
  | c :: cs =>
    match table? with
    | none =>
      if !skip && c = '\x7b' then tableItems (some [c]) false depth inText cs
      else tableItems none false depth inText cs
    | some read =>
      let inText :=
        if !isQuote c then inText
        else !inText || Text.endsOddly (· == '\\') read.reverse
      let depth := if !inText && c = '\x7b' then depth + 1 else depth
      if inText || c ≠ '\x7d' then tableItems (some (c :: read)) false depth inText cs
      else if 1 < depth then tableItems (some (c :: read)) false (depth - 1) inText cs
      else (c :: read).reverse :: tableItems none true depth inText cs

/-- The items of an array of tables. The last character is taken for its bracket. -/
def tablesOf (cs : List Char) : List (List Char) :=
  match cs.dropLast with
  | _ :: c :: rest => tableItems (some [c]) false (if c = '\x7b' then 1 else 0) false rest
  | _ => []

/-- The items of an array of arrays, cut at the commas outside brackets. -/
def nestedItems (depth : Int) : List Char → List (List Char)
  | [] => [[]]
  | c :: cs =>
    if c = ',' && depth = 0 then [] :: nestedItems depth cs
    else
      let depth := if c = '[' then depth + 1 else if c = ']' then depth - 1 else depth
      match nestedItems depth cs with
      | [] => [[c]]
      | item :: items => (c :: item) :: items

/-- The items of an array whose first item is no array. -/
def flatItems (cs : List Char) : Except Fault (List (List Char)) :=
  let body := Text.inner cs
  if (Text.trim body).head? = some '\x7b' then .ok (tablesOf cs)
  else
    match Text.splitAt ',' body with
    | [] => .ok []
    | piece :: pieces =>
      if isTextArray cs then joinTexts piece false pieces else .ok (piece :: pieces)

/-- The items of an array. Blank ones do not count. -/
def arrayItems (cs : List Char) : Except Fault (List (List Char)) := do
  let body := Text.inner cs
  let items ←
    if body.contains '[' && (Text.trim (Text.cutAt '[' body).1).isEmpty then
      pure (nestedItems 0 body)
    else flatItems cs
  return (items.map Text.trim).filter (!·.isEmpty)

/-! ## Inline tables -/

/-- Whether a text is complete as a value of an inline table: between quotes, brackets or braces, a
truth value, or a number. -/
def isWhole (cs : List Char) : Except Fault Bool :=
  match cs, cs.getLast? with
  | first :: _, some last =>
    .ok ((isQuote first && first = last) || first = '-' || first.isDigit ||
      cs = "true".toList || cs = "false".toList ||
      (first = '[' && last = ']') || (first = '\x7b' && last = '\x7d'))
  | _, _ => breakOff .pastText

/-- Whether a piece of an inline table is an entry by itself. It has to have a key at least. -/
def isEntry (piece : List Char) : Except Fault Bool :=
  match Text.cutAt '=' piece with
  | (_, none) => .error .badValue
  | (_, some value) => isWhole (Text.trim value)

/-- Joins the pieces of an inline table to its entries, from a piece on. -/
def joinEntries (piece : List Char) : List (List Char) → Except Fault (List (List Char))
  | [] => do if ← isEntry piece then return [piece] else throw Fault.badValue
  | next :: rest => do
    if ← isEntry piece then return piece :: (← joinEntries next rest)
    else joinEntries (piece ++ ',' :: next) rest

/-- The entries of an inline table. -/
def tableEntries (cs : List Char) : Except Fault (List (List Char)) :=
  match Text.splitAt ',' (Text.inner cs) with
  | [] => .ok []
  | [piece] => if (Text.trim piece).isEmpty then .ok [] else joinEntries piece []
  | piece :: pieces => joinEntries piece pieces

end MimeDatabase.Toml
