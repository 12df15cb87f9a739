/-!
# Floating-point numbers

Binary floating-point numbers with 53 bits of precision. A finite number is given exactly, as a
significand times a power of two. The number nearest to a fraction is found in exact arithmetic; of
two that are equally near it is the one with the even significand.
-/

namespace MimeDatabase

/-- Two to a power. -/
def powerOfTwo (n : Nat) : Nat := Nat.pow 2 n

/-- Ten to a power. -/
def powerOfTen (n : Nat) : Nat := Nat.pow 10 n

/-- A floating-point number. -/
inductive Double where
  /-- The number `significand * 2 ^ exponent`, or its negative. -/
  | finite (negative : Bool) (significand : Nat) (exponent : Int)
  | infinite (negative : Bool)
  | nan
  deriving DecidableEq, Repr

namespace Double

/-- The number of bits of a significand. -/
def precision : Nat := 53

/-- The least exponent. -/
def minExponent : Int := -1074

/-- The greatest exponent. -/
def maxExponent : Int := 971

/-- Zero, which has a sign too. -/
def zero (negative : Bool) : Double := .finite negative 0 minExponent

/-- A fraction divided by a power of two, as a fraction. -/
def dividePower (num den : Nat) : Int → Nat × Nat
  | .ofNat e => (num, den * powerOfTwo e)
  | .negSucc e => (num * powerOfTwo (e + 1), den)

/-- A fraction rounded to the nearest integer, a half to the even one. -/
def roundToEven (num den : Nat) : Nat :=
  let quotient := num / den
  let rest := num % den
  if 2 * rest < den || (2 * rest == den && quotient % 2 == 0) then quotient else quotient + 1

/-- The exponent with which a positive fraction has a significand of full precision, if it is not
below the least one. -/
def exponentOf (num den : Nat) : Int :=
  let guess : Int := (num.log2 : Int) - den.log2 - (precision - 1 : Nat)
  let (n, d) := dividePower num den guess
  max (if n < d * powerOfTwo (precision - 1) then guess - 1 else guess) minExponent

/-- The number nearest to a fraction, or to its negative. -/
def ofFraction (negative : Bool) (num den : Nat) : Double :=
  if num = 0 then zero negative
  else
    let e := exponentOf num den
    let (n, d) := dividePower num den e
    let s := roundToEven n d
    let (s, e) := if s = powerOfTwo precision then (powerOfTwo (precision - 1), e + 1) else (s, e)
    if e > maxExponent then .infinite negative else .finite negative s e

/-- The integer that a finite number is, if it is one. -/
def toInt? : Double → Option Int
  | .finite negative s e =>
    let signed (n : Nat) : Int := if negative then -n else n
    match e with
    | .ofNat e => some (signed (s * powerOfTwo e))
    | .negSucc e =>
      let den := powerOfTwo (e + 1)
      if s % den = 0 then some (signed (s / den)) else none
  | _ => none

/-- The integer that is left of a finite number without its places; zero for the other numbers. -/
def integerPart : Double → Int
  | .finite negative s e =>
    let (num, den) := dividePower s 1 (-e)
    let n : Int := (num / den : Nat)
    if negative then -n else n
  | _ => 0

/-- The product of two finite numbers; undefined for the other ones. -/
def times : Double → Double → Double
  | .finite n s e, .finite n' s' e' =>
    let (num, den) := dividePower (s * s') 1 (-(e + e'))
    ofFraction (n != n') num den
  | _, _ => .nan

/-- Whether a number is neither infinite nor undefined. -/
def isFinite : Double → Bool
  | .finite .. => true
  | _ => false

end Double

end MimeDatabase
