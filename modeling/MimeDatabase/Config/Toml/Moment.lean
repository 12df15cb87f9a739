import MimeDatabase.Config.Toml.Node
import MimeDatabase.Text.Numeral

/-!
# Dates and times of a TOML document

A date stands alone or with a time of day after it, which may have a fraction of a second and an
offset. Only the places of the numbers are fixed, the characters between them are free, save that
there is a hyphen somewhere. A time of day alone has colons.
-/

namespace MimeDatabase.Toml

/-- The integer that some characters of a text spell. -/
def intAt? (cs : List Char) (start count : Nat) : Option Int :=
  Text.int? ((cs.drop start).take count)

/-- Whether an integer lies between two others. -/
def isBetween (low high n : Int) : Bool := low ≤ n && n ≤ high

/-! ## Fractions of a second -/

/-- The fraction of a second, and whether the offset after it can be read. The fraction ends before
a final `Z`, before the first plus sign or, without one, before the first hyphen. -/
def fractionAndOffset (cs : List Char) : List Char × Bool :=
  if cs.getLast? = some 'Z' || cs.getLast? = some 'z' then (cs.dropLast, true)
  else
    let sign := if cs.contains '+' then '+' else '-'
    match Text.cutAt sign cs with
    | (fraction, none) => (fraction, true)
    | (fraction, some offset) =>
      (fraction, (intAt? offset 0 2).isSome && (intAt? offset 3 2).isSome)

/-- The microseconds of a fraction. More than six digits are scaled down as a floating-point
number. -/
def microsecondsOf (fraction : List Char) : Except Fault Int :=
  match Text.int? fraction with
  | none => .ok 0
  | some n =>
    let count := fraction.length
    if count ≤ 6 then .ok (n * powerOfTen (6 - count))
    else
      let x := Double.ofFraction (n < 0) n.natAbs 1
      if x.isFinite then
        .ok (x.times (Double.ofFraction false 1 (powerOfTen (count - 6)))).integerPart
      else breakOff .fractionTooLarge

/-- The microseconds of a date with a time; zero if there are none that can be read. -/
def microsecondsIn (cs : List Char) : Except Fault Int :=
  match cs.drop 19 with
  | '.' :: rest =>
    match fractionAndOffset rest with
    | (fraction, true) => microsecondsOf fraction
    | (_, false) => .ok 0
  | _ => .ok 0

/-! ## Dates -/

/-- Whether a year has a leap day. -/
def isLeap (year : Int) : Bool := year % 4 = 0 && (year % 100 ≠ 0 || year % 400 = 0)

/-- The days of a month. -/
def daysOf (year month : Int) : Int :=
  if month = 2 then if isLeap year then 29 else 28
  else if [4, 6, 9, 11].contains month then 30
  else 31

/-- Whether a text begins with a date. -/
def beginsWithDate (cs : List Char) : Bool :=
  match intAt? cs 0 4, intAt? cs 5 2, intAt? cs 8 2 with
  | some year, some month, some day =>
    isBetween 1 9999 year && isBetween 1 12 month && isBetween 1 (daysOf year month) day
  | _, _, _ => false

/-- Whether a time of day stands in a text after a date. -/
def hasTime (cs : List Char) : Bool :=
  match intAt? cs 11 2, intAt? cs 14 2, intAt? cs 17 2 with
  | some hour, some minute, some second =>
    isBetween 0 23 hour && isBetween 0 59 minute && isBetween 0 59 second
  | _, _, _ => false

/-- The kind of the date that a text spells, if it spells one. -/
def date? (cs : List Char) : Except Fault (Option MomentKind) := do
  let micros ← microsecondsIn cs
  if !cs.tail.contains '-' || !beginsWithDate cs then return none
  else if cs.length = 10 then return some .date
  else if hasTime cs && isBetween 0 999999 micros then return some .dateTime
  else return none

/-! ## Times of day -/

/-- Two ASCII digits. -/
def isTwoDigits : List Char → Bool
  | [a, b] => a.isDigit && b.isDigit
  | _ => false

/-- Whether a text begins like a time of day. -/
def looksLikeTime (cs : List Char) : Bool :=
  isTwoDigits (cs.take 2) && (cs.drop 2).head? = some ':' && isTwoDigits ((cs.drop 3).take 2) &&
    (cs.drop 5).head? = some ':' && isTwoDigits ((cs.drop 6).take 2)

/-- Whether a text that begins like a time of day begins with one. -/
def beginsWithTime (cs : List Char) : Bool :=
  match intAt? cs 0 2, intAt? cs 3 2, intAt? cs 6 2 with
  | some hour, some minute, some second =>
    isBetween 0 23 hour && isBetween 0 59 minute && isBetween 0 59 second
  | _, _, _ => false

end MimeDatabase.Toml
