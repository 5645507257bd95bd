/-!
Moments of the Gregorian calendar in universal time, and their RFC 3339 texts.
-/

namespace PriceRelay

/-- A calendar date and a time of day. -/
structure Moment where
  year : Nat
  month : Nat
  day : Nat
  hour : Nat
  minute : Nat
  second : Nat
  deriving DecidableEq, Repr

namespace Moment

def isLeap (year : Nat) : Bool := year % 4 = 0 && (year % 100 ≠ 0 || year % 400 = 0)

def daysInMonth (year month : Nat) : Nat :=
  if month = 2 then (if isLeap year then 29 else 28)
  else if month = 4 || month = 6 || month = 9 || month = 11 then 30
  else 31

/-- Days since 1970-01-01. Years are counted from March, so that a leap day ends its year. -/
def dayNumber (year month day : Nat) : Nat :=
  let shifted := if month ≤ 2 then year - 1 else year
  let fromMarch := if month ≤ 2 then month + 9 else month - 3
  365 * shifted + shifted / 4 - shifted / 100 + shifted / 400
    + (153 * fromMarch + 2) / 5 + day - 1 - 719468

/-- The date that many days after 1970-01-01. -/
def dateOfDay (days : Nat) : Nat × Nat × Nat :=
  let shifted := days + 719468
  let era := shifted / 146097
  let dayOfEra := shifted % 146097
  let yearOfEra := (dayOfEra - dayOfEra / 1460 + dayOfEra / 36524 - dayOfEra / 146096) / 365
  let dayOfYear := dayOfEra - (365 * yearOfEra + yearOfEra / 4 - yearOfEra / 100)
  let fromMarch := (5 * dayOfYear + 2) / 153
  let day := dayOfYear - (153 * fromMarch + 2) / 5 + 1
  let month := if fromMarch < 10 then fromMarch + 3 else fromMarch - 9
  let year := yearOfEra + era * 400 + (if month ≤ 2 then 1 else 0)
  (year, month, day)

/-- The moment that many seconds after the epoch. -/
def ofSeconds (seconds : Nat) : Moment :=
  let (year, month, day) := dateOfDay (seconds / 86400)
  let time := seconds % 86400
  ⟨year, month, day, time / 3600, time / 60 % 60, time % 60⟩

def toSeconds (moment : Moment) : Nat :=
  dayNumber moment.year moment.month moment.day * 86400
    + moment.hour * 3600 + moment.minute * 60 + moment.second

/-- 1 for Sunday up to 7 for Saturday. -/
def weekday (year month day : Nat) : Nat := (dayNumber year month day + 4) % 7 + 1

private def padded (width value : Nat) : String :=
  let text := toString value
  String.ofList (List.replicate (width - text.length) '0') ++ text

/-- Years that need more than four digits carry a sign. -/
private def yearText (year : Int) : String :=
  if year < 0 then "-" ++ padded 4 year.natAbs
  else if year ≤ 9999 then padded 4 year.toNat
  else "+" ++ padded 4 year.toNat

private def timeText (moment : Moment) : String :=
  padded 2 moment.hour ++ ":" ++ padded 2 moment.minute ++ ":" ++ padded 2 moment.second

/-- A fraction of a second in nanoseconds, in as few of three, six or nine digits as it takes. -/
private def fractionText (nanos : Nat) : String :=
  if nanos = 0 then ""
  else if nanos % 1000000 = 0 then "." ++ padded 3 (nanos / 1000000)
  else if nanos % 1000 = 0 then "." ++ padded 6 (nanos / 1000)
  else "." ++ padded 9 nanos

/-- The RFC 3339 text with the given suffix for universal time; the year is taken from `year`. -/
def textWithYear (year : Int) (moment : Moment) (nanos : Nat) (zone : String) : String :=
  yearText year ++ "-" ++ padded 2 moment.month ++ "-" ++ padded 2 moment.day
    ++ "T" ++ timeText moment ++ fractionText nanos ++ zone

/-- The RFC 3339 text with the given suffix for universal time. -/
def text (moment : Moment) (nanos : Nat) (zone : String) : String :=
  textWithYear moment.year moment nanos zone

/-- The RFC 3339 text of an instant in milliseconds. -/
def textOfMillis (millis : Nat) : String :=
  text (ofSeconds (millis / 1000)) (millis % 1000 * 1000000) "+00:00"

/-- The RFC 3339 text of a moment. -/
def rfc3339 (moment : Moment) : String := text moment 0 "+00:00"

end Moment

end PriceRelay
