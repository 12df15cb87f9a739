import MimeDatabase.Number.Decimal

/-!
# Rounded decimals

A floating-point number written with a given number of digits: so many places after the point, so
many digits before an exponent, or whichever of the two is shorter. The last digit is rounded from
the exact value, a half to the even digit.
-/

namespace MimeDatabase.Double

/-- A finite number as a fraction. -/
def fraction (significand : Nat) (exponent : Int) : Nat × Nat :=
  dividePower significand 1 (-exponent)

/-- An integer with a point before its last `places` digits; without places the point is only kept
on demand. -/
def pointBefore (places : Nat) (keepPoint : Bool) (n : Nat) : List Char :=
  let digits := Nat.toDigits 10 n
  let digits := List.replicate (places + 1 - digits.length) '0' ++ digits
  let whole := digits.take (digits.length - places)
  if places = 0 then if keepPoint then whole ++ ['.'] else whole
  else whole ++ '.' :: digits.drop (digits.length - places)

/-- A number with a fixed number of places. -/
def fixedText (places : Nat) (keepPoint : Bool) (significand : Nat) (exponent : Int) :
    List Char :=
  let (num, den) := fraction significand exponent
  pointBefore places keepPoint (roundToEven (num * powerOfTen places) den)

/-- The first digits of a positive number as an integer, and the power of ten of the first one. -/
def leadingDigits (count : Nat) (significand : Nat) (exponent : Int) : Nat × Int :=
  let (num, den) := fraction significand exponent
  let decade := decadeOf significand exponent
  let power := decade - (count - 1 : Nat)
  let n := roundToEven (num * powerOfTen (-power).toNat) (den * powerOfTen power.toNat)
  if n = powerOfTen count then (powerOfTen (count - 1), decade + 1) else (n, decade)

/-- The exponent with its sign and two digits at least. -/
def exponentText (decade : Int) : List Char :=
  let size := Nat.toDigits 10 decade.natAbs
  'e' :: (if decade < 0 then '-' else '+') :: (List.replicate (2 - size.length) '0' ++ size)

/-- A number with one digit before the point and a fixed number of places, and an exponent. -/
def scientificText (places : Nat) (keepPoint : Bool) (significand : Nat) (exponent : Int) :
    List Char :=
  let (n, decade) :=
    if significand = 0 then (0, 0) else leadingDigits (places + 1) significand exponent
  pointBefore places keepPoint n ++ exponentText decade

/-- A text without the zeros at its end, nor a point before them. -/
def dropTrailingZeros (cs : List Char) : List Char :=
  if cs.contains '.' then
    ((cs.reverse.dropWhile (· == '0')).dropWhile (· == '.')).reverse
  else cs

/-- As many digits as any number has: one more changes none. -/
def digitsAtMost : Nat := 1100

/-- A number with a fixed number of digits, written out unless it is very small or has more digits
before the point. Zeros at the end are dropped, unless they are to be kept. -/
def generalText (count : Nat) (keepZeros : Bool) (significand : Nat) (exponent : Int) :
    List Char :=
  let count := if keepZeros then max count 1 else min (max count 1) digitsAtMost
  let (n, decade) := if significand = 0 then (0, 0) else leadingDigits count significand exponent
  let trim (cs : List Char) := if keepZeros then cs else dropTrailingZeros cs
  if -4 ≤ decade && decade < count then
    let places := (count - 1 - decade : Int).toNat
    let (num, den) := fraction significand exponent
    trim (pointBefore places keepZeros (roundToEven (num * powerOfTen places) den))
  else trim (pointBefore (count - 1) keepZeros n) ++ exponentText decade

end MimeDatabase.Double
