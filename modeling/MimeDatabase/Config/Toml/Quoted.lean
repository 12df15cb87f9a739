import MimeDatabase.Config.Toml.Line
import MimeDatabase.Config.Toml.Node

/-!
# Strings of a TOML document

A string stands between quotes, or between three of them. Between quotation marks a backslash begins
an escape: of one letter, or of a code point in four or eight hexadecimal digits. An escape may
spell a code point that is no character, so that a string is read as code points.
-/

namespace MimeDatabase.Toml

/-! ## Closing quotes -/

/-- How far a string is read, piece by piece between its quotes: the number of empty pieces in a row
in a long string, and whether the string is closed. -/
structure Closing where
  quotes : Nat
  closed : Bool

/-- Reads a piece of a string. A backslash before a quote lets the string go on; otherwise a piece
after the closing quote is a fault. -/
def Closing.read (long : Bool) (c : Closing) (piece : List Char) : Except Fault Closing :=
  if piece.isEmpty then
    .ok (if long then { c with quotes := c.quotes + 1 } else { c with closed := true })
  else if Text.endsOddly (· == '\\') piece then .ok c
  else if c.closed then .error .badValue
  else if !long || 1 < c.quotes then .ok { c with closed := true }
  else .ok { c with quotes := 0 }

/-- Whether nothing follows the closing quotes of a string. -/
def checkClosing (quote : Char) (cs : List Char) : Except Fault Unit := do
  let (long, pieces) := match Text.splitAt quote (cs.drop 1) with
    | [] :: [] :: rest => (true, rest)
    | pieces => (false, pieces)
  let _ ← pieces.foldlM (Closing.read long) ⟨0, false⟩

/-! ## Escapes -/

/-- The code point of an escape of one letter. -/
def letterEscape? (letter : Nat) : Option Nat :=
  ([('0', '\x00'), ('b', '\x08'), ('f', '\x0c'), ('n', '\n'), ('r', '\r'), ('t', '\t'),
    ('"', '"')].find? (·.1.toNat = letter)).map (·.2.toNat)

/-- The code of the backslash. -/
def backslash : Nat := '\\'.toNat

/-- The codes of the letters that begin escapes of code points. -/
def isCodeMark (letter : Nat) : Bool := letter = 'u'.toNat || letter = 'U'.toNat

/-- Whether the escapes of a string, given by what follows each backslash, are known. -/
def checkEscapes (escaped : Bool) : List (List Nat) → Except Fault Unit
  | [] => .ok ()
  | [] :: pieces => checkEscapes (!escaped) pieces
  | (c :: _) :: pieces =>
    if escaped || (letterEscape? c).isSome || isCodeMark c then checkEscapes false pieces
    else .error .badEscape

/-- The value of a hexadecimal digit. -/
def hexDigit? (code : Nat) : Option Nat :=
  if 48 ≤ code && code ≤ 57 then some (code - 48)
  else if 97 ≤ code && code ≤ 102 then some (code - 87)
  else if 65 ≤ code && code ≤ 70 then some (code - 55)
  else none

/-- The code point that digits of base sixteen spell. -/
def codePointOf (digits : List Nat) : Except Fault Nat :=
  let n := digits.foldl (fun n d => 16 * n + d) 0
  if powerOfTwo 31 ≤ n then breakOff .codeTooLarge
  else if 0x110000 ≤ n then .error .badEscape
  else .ok n

/-- The code point that hexadecimal digits spell. A first digit of thirteen is followed by another
one below eight. -/
def codePoint (digits : List Nat) : Except Fault Nat :=
  match digits.mapM hexDigit? with
  | none => .error .badEscape
  | some [] | some [13] => breakOff .pastText
  | some (13 :: d :: ds) =>
    if 8 ≤ d then .error .badEscape else codePointOf (13 :: d :: ds)
  | some ds => codePointOf ds

/-- Resolves the escapes of code points that follow the marks given by the pieces between them, with
`width` digits each. A mark after an odd number of backslashes is none. -/
def resolveMarks (mark : List Nat) (width : Nat) (done : List Nat) (escaped : Bool) :
    List (List Nat) → Except Fault (List Nat)
  | [] => .ok done
  | piece :: pieces =>
    if escaped then
      resolveMarks mark width (done ++ mark ++ piece) (Text.endsOddly (· == backslash) piece) pieces
    else do
      let code ← codePoint (piece.take width)
      resolveMarks mark width (done ++ code :: piece.drop width) false pieces

/-- Resolves the escapes of code points with a letter. -/
def resolveCodes (letter : Char) (width : Nat) (codes : List Nat) : Except Fault (List Nat) :=
  let mark := [backslash, letter.toNat]
  match Text.splitAtRun mark 0 codes with
  | [] => .ok codes
  | first :: pieces =>
    resolveMarks mark width first (Text.endsOddly (· == backslash) first) pieces

/-- Resolves the escapes of one letter. Those of code points are kept. -/
def resolveLetters : List Nat → Except Fault (List Nat)
  | [] => .ok []
  | [c] => .ok [c]
  | c :: e :: codes =>
    if c ≠ backslash then (resolveLetters (e :: codes)).map (c :: ·)
    else if e = backslash then (resolveLetters codes).map (e :: ·)
    else
      match letterEscape? e with
      | some resolved => (resolveLetters codes).map (resolved :: ·)
      | none =>
        if isCodeMark e then (resolveLetters codes).map ([c, e] ++ ·) else .error .badEscape

/-- The code points of a string between quotation marks, with its escapes resolved. -/
def resolve (codes : List Nat) : Except Fault (List Nat) := do
  checkEscapes false ((Text.splitAt backslash codes).drop 1)
  resolveLetters (← resolveCodes 'U' 8 (← resolveCodes 'u' 4 codes))

/-! ## Strings -/

/-- What stands between the quotes. The second character tells whether there are three of them. -/
def withoutQuotes (quote : Char) (codes : List Nat) : List Nat :=
  let long := match codes with
    | _ :: b :: rest => b = quote.toNat && (rest.isEmpty || rest.head? = some b)
    | _ => false
  Text.inner (if long then Text.inner (Text.inner codes) else codes)

/-- The code points of a string. -/
def readString (quote : Char) (cs : List Char) : Except Fault (List Nat) := do
  checkClosing quote cs
  let codes := codesOf cs
  return withoutQuotes quote (← if quote = '"' then resolve codes else pure codes)

end MimeDatabase.Toml
