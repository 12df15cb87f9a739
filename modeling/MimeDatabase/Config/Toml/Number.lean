import MimeDatabase.Config.Toml.Node
import MimeDatabase.Number.Decimal
import MimeDatabase.Text.Case

/-!
# Numbers of a TOML document

An integer is written in decimal digits, or in another base after a mark. A number with a point or
an exponent is a floating-point number, and so are infinity and the undefined number, which have
names. Underscores may part the digits and do not count. A number that stands alone as the value of
a key has to be tidy as well: its underscores stand between digits, and it has no needless zeros
before it.
-/

namespace MimeDatabase.Toml

/-! ## Integers -/

/-- A text with the digits of all scripts in ASCII. -/
def inAscii (cs : List Char) : List Char :=
  cs.map fun c => ((Text.digit? c).map fun d => Char.ofNat (d + 48)).getD c

/-- The value of a digit in a base up to sixteen. -/
def digitOf? (base : Nat) (c : Char) : Option Nat :=
  let value :=
    if c.isDigit then some (c.toNat - 48)
    else if 'a' ≤ c && c ≤ 'f' then some (c.toNat - 87)
    else if 'A' ≤ c && c ≤ 'F' then some (c.toNat - 55)
    else none
  value.filter (· < base)

/-- The values of digits in a base. There is at least one. -/
def digitsOf? (base : Nat) : List Char → Option (List Nat)
  | [] => none
  | cs => cs.mapM (digitOf? base)

/-- The integer that digits after the mark of a base spell. -/
def marked? (base : Nat) (cs : List Char) : Option Nat :=
  (digitsOf? base cs).map fun ds => ds.foldl (fun n d => base * n + d) 0

/-- The integer that decimal digits spell. Only zero begins with the digit zero. -/
def unmarked? (cs : List Char) : Option Nat := do
  let ds ← digitsOf? 10 cs
  if Text.digitLimit < ds.length then none
  else if ds.head? = some 0 && ds.any (· ≠ 0) then none
  else some (Text.numberOf ds)

/-- The integer that a text without sign spells. -/
def natural? : List Char → Option Nat
  | '0' :: mark :: cs =>
    if mark = 'x' || mark = 'X' then marked? 16 cs
    else if mark = 'o' || mark = 'O' then marked? 8 cs
    else if mark = 'b' || mark = 'B' then marked? 2 cs
    else unmarked? ('0' :: mark :: cs)
  | cs => unmarked? cs

/-- The integer that a text spells, with a sign and white space around it. -/
def integer? (cs : List Char) : Option Int :=
  let (negative, body) := Text.takeSign (Text.stripBy Text.isNumeralBlank cs)
  (natural? (inAscii body)).map fun n => if negative then -n else n

/-! ## Floating-point numbers -/

/-- The floating-point number that a text spells, be it by a name. -/
def double? (cs : List Char) : Option Double :=
  match Decimal.ofText? cs with
  | some d => some d.toDouble
  | none =>
    let (negative, body) := Text.takeSign (Text.stripBy Text.isNumeralBlank cs)
    let name := body.map Char.toLower
    if name = "inf".toList || name = "infinity".toList then some (.infinite negative)
    else if name = "nan".toList then some .nan
    else none

/-- Whether a text is meant as a floating-point number. -/
def looksFloating (cs : List Char) : Bool :=
  cs.contains '.' || (!cs.contains 'x' && (cs.contains 'e' || cs.contains 'E'))

/-- The floating-point number that a text without sign spells. It begins with a digit and does not
end with its point. -/
def readDouble (cs : List Char) : Except Fault Double :=
  match Text.cutAt '.' cs with
  | (_, some []) => .error .badValue
  | _ =>
    match cs.head?.any Char.isDigit, double? cs with
    | true, some x => .ok x
    | _, _ => .error .badValue

/-- The negative of a number; that of zero is zero. -/
def negative : Double → Double
  | .finite _ s e => .finite (s ≠ 0) s e
  | .infinite n => .infinite !n
  | .nan => .nan

/-! ## Numbers -/

/-- Whether a number is tidy. An underscore stands neither at an end nor beside a point or another
underscore. After a zero at the beginning comes a point or the mark of a base, and only a point if a
sign is before the zero. -/
def isTidy (text : List Char) : Bool :=
  let cs := Text.trim text
  let loose : Char × Char → Bool := fun pair => [('_', '_'), ('_', '.'), ('.', '_')].contains pair
  let needlessZero := match cs with
    | '0' :: c :: _ => !(['.', 'x', 'o', 'b'].contains c)
    | sign :: '0' :: c :: _ => (sign = '+' || sign = '-') && c ≠ '.'
    | _ => false
  cs.head? ≠ some '_' && cs.getLast? ≠ some '_' && !(cs.zip cs.tail).any loose && !needlessZero

/-- A text without its underscores. -/
def withoutMarks (cs : List Char) : List Char := cs.filter (· ≠ '_')

/-- The number that a text spells. Of two signs, the second one belongs to an integer. -/
def readNumber (cs : List Char) : Except Fault Node :=
  let (isNegative, signed) := Text.takeSign cs
  let body := withoutMarks signed
  let double (x : Double) : Node := .float (if isNegative then negative x else x)
  let name := Text.lower body
  if looksFloating body then (readDouble body).map double
  else if name = "inf".toList then .ok (double (.infinite false))
  else if name = "nan".toList then .ok (double .nan)
  else
    match integer? body with
    | none => .error .badValue
    | some n => .ok (.int (if isNegative then -n else n))

end MimeDatabase.Toml
