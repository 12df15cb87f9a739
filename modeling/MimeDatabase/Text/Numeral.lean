import MimeDatabase.Text.Blank
import MimeDatabase.Text.Digit

/-!
# Integers in text

An integer is written with an optional sign and decimal digits of any script, single underscores
between digits, and white space around it. More than `digitLimit` digits are refused.
-/

namespace MimeDatabase.Text

/-- The most digits that an integer is read from. -/
def digitLimit : Nat := 4300

/-- White space that may surround a number: all white space but the information separators. -/
def isNumeralBlank (c : Char) : Bool := isBlank c && !(28 ≤ c.toNat && c.toNat ≤ 31)

/-- The digits of a text that holds only digits, with single underscores between them. -/
def separatedDigits? : List Char → Option (List Nat)
  | [] => none
  | c :: cs =>
    match digit? c, cs with
    | none, _ => none
    | some d, [] => some [d]
    | some d, '_' :: rest => (separatedDigits? rest).map (d :: ·)
    | some d, c' :: rest => (separatedDigits? (c' :: rest)).map (d :: ·)

/-- Takes a sign off: whether the number is negative, and the rest. -/
def takeSign : List Char → Bool × List Char
  | '-' :: cs => (true, cs)
  | '+' :: cs => (false, cs)
  | cs => (false, cs)

/-- The integer that a text spells; `none` for any other text and for more than `digitLimit`
digits. -/
def int? (cs : List Char) : Option Int :=
  let (negative, body) := takeSign (stripBy isNumeralBlank cs)
  match separatedDigits? body with
  | none => none
  | some digits =>
    if digits.length > digitLimit then none
    else
      let n : Int := numberOf digits
      some (if negative then -n else n)

end MimeDatabase.Text
