import MimeDatabase.Number.Double

/-!
# Instants

An instant is a number of seconds since the beginning of 1970, and is shown as a date and a time of
day in universal time.
-/

namespace MimeDatabase.Log

/-- A date of the Gregorian calendar. -/
structure Date where
  year : Int
  month : Nat
  day : Nat
  deriving DecidableEq, Repr

/-- A date and a time of day. -/
structure Clock where
  date : Date
  hour : Nat
  minute : Nat
  second : Nat
  deriving DecidableEq, Repr

namespace Date

/-- The days from the first of March of the year zero to the first of January of 1970. -/
def epochOffset : Int := 719468

/-- The days of four hundred years. -/
def daysPerCycle : Int := 146097

/-- The date that lies a number of days after the first of January of 1970. Years are counted from
March, so that a leap day is the last day of its year. -/
def ofDays (days : Int) : Date :=
  let shifted := days + epochOffset
  let cycle := shifted / daysPerCycle
  let dayOfCycle := (shifted % daysPerCycle).toNat
  let yearOfCycle :=
    (dayOfCycle - dayOfCycle / 1460 + dayOfCycle / 36524 - dayOfCycle / 146096) / 365
  let dayOfYear := dayOfCycle - (365 * yearOfCycle + yearOfCycle / 4 - yearOfCycle / 100)
  let fromMarch := (5 * dayOfYear + 2) / 153
  let month := if fromMarch < 10 then fromMarch + 3 else fromMarch - 9
  { year := yearOfCycle + cycle * 400 + (if month ≤ 2 then 1 else 0)
    month
    day := dayOfYear - (153 * fromMarch + 2) / 5 + 1 }

end Date

namespace Clock

/-- The date and time of day that lie a number of seconds after the beginning of 1970. -/
def ofSeconds (seconds : Int) : Clock :=
  let ofDay := (seconds % 86400).toNat
  ⟨Date.ofDays (seconds / 86400), ofDay / 3600, ofDay / 60 % 60, ofDay % 60⟩

end Clock

/-! ## Seconds and their fractions -/

/-- The whole seconds of an instant, rounded down. -/
def wholeSeconds : Double → Int
  | .finite negative s e =>
    let (num, den) := Double.dividePower s 1 (-e)
    if negative then -((num + den - 1) / den : Nat) else (num / den : Nat)
  | _ => 0

/-- The integer nearest to a number that is neither negative nor infinite, a half to the even
one. -/
def nearestInteger : Double → Nat
  | .finite _ s e =>
    let (num, den) := Double.dividePower s 1 (-e)
    Double.roundToEven num den
  | _ => 0

/-- The seconds and microseconds of an instant. The fraction is counted in microseconds as a
floating-point number first, and then rounded. -/
def microseconds : Double → Int × Nat
  | .finite negative s e =>
    let (num, den) := Double.dividePower s 1 (-e)
    let whole : Nat := num / den
    let micros := nearestInteger (Double.ofFraction false (num % den * 1000000) den)
    if negative then
      if micros = 0 then (-whole, 0)
      else (-whole - 1, 1000000 - micros)
    else if micros ≥ 1000000 then (whole + 1, micros - 1000000)
    else (whole, micros)
  | _ => (0, 0)

/-! ## Texts -/

/-- A number in decimal digits, with zeros before it up to a width. -/
def padded (width n : Nat) : String :=
  let digits := Nat.toDigits 10 n
  String.ofList (List.replicate (width - digits.length) '0' ++ digits)

/-- The time of day with colons. -/
def Clock.timeText (c : Clock) : String :=
  padded 2 c.hour ++ ":" ++ padded 2 c.minute ++ ":" ++ padded 2 c.second

/-- The month and the day with hyphens before them. -/
def Date.monthAndDayText (d : Date) : String := "-" ++ padded 2 d.month ++ "-" ++ padded 2 d.day

/-- Why an instant cannot be shown. -/
inductive InstantFault where
  /-- The seconds are beyond all floating-point numbers. -/
  | beyondNumbers
  /-- The seconds do not fit into 64 bits. -/
  | beyondClock
  /-- The year, counted from 1900, does not fit into 32 bits. -/
  | beyondCalendar
  /-- The year does not fit into 32 bits. -/
  | yearTooLarge
  /-- The year is outside the years 1 to 9999. -/
  | yearOutOfRange (year : Int)
  deriving DecidableEq, Repr

/-- The text of the fault. -/
def InstantFault.message : InstantFault → String
  | beyondNumbers => "integer division result too large for a float"
  | beyondClock => "timestamp out of range for platform time_t"
  | beyondCalendar => "[Errno 75] Value too large for defined data type"
  | yearTooLarge => "signed integer is greater than maximum"
  | yearOutOfRange year => "year " ++ toString year ++ " is out of range"

/-- The instant of a number of microseconds. -/
def instantOf (microseconds : Int) : Except InstantFault Double :=
  match Double.ofFraction (microseconds < 0) microseconds.natAbs 1000000 with
  | .infinite _ => .error .beyondNumbers
  | instant => .ok instant

/-- Whether a number fits into a word with a sign. -/
def fitsWord (bits : Nat) (n : Int) : Bool :=
  -powerOfTwo (bits - 1) ≤ n && n < powerOfTwo (bits - 1)

/-- The date and time of day that lie a number of seconds after the beginning of 1970, if the
calendar reaches as far. -/
def clockOf (seconds : Int) : Except InstantFault Clock :=
  if !fitsWord 64 seconds then .error .beyondClock
  else
    let c := Clock.ofSeconds seconds
    if fitsWord 32 (c.date.year - 1900) then .ok c else .error .beyondCalendar

/-- An instant to the second, with a blank between date and time. -/
def plainTime (instant : Double) : Except InstantFault String := do
  let c ← clockOf (wholeSeconds instant)
  if !fitsWord 32 c.date.year then throw .yearTooLarge
  return toString c.date.year ++ c.date.monthAndDayText ++ " " ++ c.timeText

/-- An instant to the microsecond, which is left out if it is zero, with the offset from universal
time. Years have four digits. A year that is refused is told as a word of 32 bits. -/
def preciseTime (instant : Double) : Except InstantFault String := do
  let (seconds, micros) := microseconds instant
  let c ← clockOf seconds
  if c.date.year < 1 || 9999 < c.date.year then
    throw (.yearOutOfRange (c.date.year.bmod (powerOfTwo 32)))
  return padded 4 c.date.year.toNat ++ c.date.monthAndDayText ++ "T" ++ c.timeText ++
    (if micros = 0 then "" else "." ++ padded 6 micros) ++ "+00:00"

end MimeDatabase.Log
