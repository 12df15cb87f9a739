import MimeDatabase.Number.Double
import MimeDatabase.Text.Numeral

/-!
# Floating-point numbers in text

A floating-point number is read from an optional sign, decimal digits of any script around an
optional point, and an optional exponent, with single underscores between digits and white space
around it all. It is written with the fewest digits that read back as the same number.
-/

namespace MimeDatabase

open Text

/-! ## Reading -/

/-- A decimal fraction: the digits, most significant first, times a power of ten. -/
structure Decimal where
  negative : Bool
  digits : List Nat
  exponent : Int
  deriving DecidableEq, Repr

namespace Decimal

/-- The floating-point number nearest to a decimal. An exponent that puts the number out of all
range decides without further computation. -/
def toDouble (d : Decimal) : Double :=
  let digits := d.digits.dropWhile (· == 0)
  let magnitude : Int := digits.length + d.exponent
  if digits.isEmpty || magnitude < -330 then .zero d.negative
  else if magnitude > 310 then .infinite d.negative
  else
    match d.exponent with
    | .ofNat e => .ofFraction d.negative (numberOf digits * powerOfTen e) 1
    | .negSucc e => .ofFraction d.negative (numberOf digits) (powerOfTen (e + 1))

/-- The digits that a text starts with, and the rest. -/
def takeDigits : List Char → List Nat × List Char
  | [] => ([], [])
  | c :: cs =>
    match digit? c with
    | none => ([], c :: cs)
    | some d =>
      let (ds, rest) := takeDigits cs
      (d :: ds, rest)

/-- Whether a text starts with a digit. -/
def startsWithDigit : List Char → Bool
  | [] => false
  | c :: _ => (digit? c).isSome

/-- A text without its underscores; `none` if one of them is not between two digits. -/
def joinDigits? (afterDigit : Bool) : List Char → Option (List Char)
  | [] => some []
  | c :: cs =>
    if c = '_' then if afterDigit && startsWithDigit cs then joinDigits? false cs else none
    else (joinDigits? (digit? c).isSome cs).map (c :: ·)

/-- The digits after a point, if a text starts with one, and the rest. -/
def takeFraction : List Char → List Nat × List Char
  | '.' :: cs => takeDigits cs
  | cs => ([], cs)

/-- The power of ten that a text spells; the empty text spells zero. -/
def exponent? : List Char → Option Int
  | [] => some 0
  | c :: cs =>
    if c = 'e' || c = 'E' then
      let (negative, body) := takeSign cs
      match takeDigits body with
      | ([], _) => none
      | (ds, []) => some (if negative then -(numberOf ds : Int) else numberOf ds)
      | _ => none
    else none

/-- The decimal that a text without surrounding white space or underscores spells. -/
def ofPlain? (cs : List Char) : Option Decimal :=
  let (negative, body) := takeSign cs
  let (whole, rest) := takeDigits body
  let (fraction, rest) := takeFraction rest
  if whole.isEmpty && fraction.isEmpty then none
  else (exponent? rest).map fun e => ⟨negative, whole ++ fraction, e - fraction.length⟩

/-- The decimal that a text spells. -/
def ofText? (cs : List Char) : Option Decimal :=
  (joinDigits? false (stripBy isNumeralBlank cs)).bind ofPlain?

end Decimal

/-! ## Writing -/

namespace Double

/-- Whether ten to a power is at most a finite positive number. -/
def powerAtMost (significand : Nat) (exponent : Int) (power : Int) : Bool :=
  powerOfTen power.toNat * powerOfTwo (-exponent).toNat ≤
    significand * powerOfTwo exponent.toNat * powerOfTen (-power).toNat

/-- The power of ten of the first digit of a finite positive number. -/
def decadeOf (significand : Nat) (exponent : Int) : Int :=
  let guess := ((significand.log2 : Int) + exponent) * 30103 / 100000
  if powerAtMost significand exponent (guess + 1) then guess + 1
  else if powerAtMost significand exponent guess then guess
  else guess - 1

/-- The multiple of `10 ^ power` that is nearest to a finite positive number among those that read
back as the number; the even multiple of two that are equally near. The numbers that read back
reach half a unit of the last place to both sides, less at the lower side of a power of two, and
include the ends for an even significand. -/
def multiple? (s : Nat) (exponent power : Int) (lowStep : Nat) : Option Nat :=
  let unit := powerOfTen power.toNat * powerOfTwo (2 - exponent).toNat
  let scale := powerOfTwo (exponent - 2).toNat * powerOfTen (-power).toNat
  let value := 4 * s * scale
  let fits (n : Nat) : Bool :=
    let x := n * unit
    let low := (4 * s - lowStep) * scale
    let high := (4 * s + 2) * scale
    if s % 2 = 0 then low ≤ x && x ≤ high else low < x && x < high
  let below := value / unit
  let above := below + 1
  let rest := 2 * (value % unit)
  let belowNearer := rest < unit || (rest == unit && below % 2 == 0)
  match fits below && below != 0, fits above with
  | true, true => some (if belowNearer then below else above)
  | true, false => some below
  | false, true => some above
  | false, false => none

/-- The fewest digits that read back as a finite positive number: an integer and the power of ten it
is multiplied with. -/
def shortest (significand : Nat) (exponent : Int) : Nat × Int :=
  let lowStep := if significand = powerOfTwo (precision - 1) && exponent ≠ minExponent then 1 else 2
  let decade := decadeOf significand exponent
  let found := (List.range 17).findSome? fun (n : Nat) =>
    let power := decade - n
    (multiple? significand exponent power lowStep).map fun m => (m, power)
  found.getD (significand * powerOfTwo exponent.toNat, 0)

/-- Decimal digits without the zeros at their end, and the number of those zeros. -/
def trimZeros (digits : List Char) : List Char × Nat :=
  let zeros := (digits.reverse.takeWhile (· == '0')).length
  (digits.take (digits.length - zeros), zeros)

/-- The text of a finite positive number. Numbers from `10 ^ -4` and below `10 ^ 16` are
written out, with a digit after the point at least; others have an exponent with a sign and two
digits at least. -/
def positiveText (significand : Nat) (exponent : Int) : List Char :=
  let (n, power) := shortest significand exponent
  let (digits, zeros) := trimZeros (Nat.toDigits 10 n)
  let power := power + zeros
  let first := power + digits.length - 1
  if -4 ≤ first && first < 16 then
    if 0 ≤ power then digits ++ List.replicate power.toNat '0' ++ ['.', '0']
    else if 0 ≤ first then
      digits.take (first.toNat + 1) ++ '.' :: digits.drop (first.toNat + 1)
    else '0' :: '.' :: List.replicate (-first - 1).toNat '0' ++ digits
  else
    let mantissa := match digits with
      | d :: [] => [d]
      | d :: ds => d :: '.' :: ds
      | [] => []
    let size := Nat.toDigits 10 first.natAbs
    mantissa ++ 'e' :: (if first < 0 then '-' else '+') ::
      (List.replicate (2 - size.length) '0' ++ size)

/-- The text of a number. -/
def text : Double → String
  | .nan => "nan"
  | .infinite negative => if negative then "-inf" else "inf"
  | .finite negative s e =>
    String.ofList ((if negative then ['-'] else []) ++
      (if s = 0 then "0.0".toList else positiveText s e))

end Double

end MimeDatabase
