import PriceRelay.Calendar.Moment
import PriceRelay.Number.Read
import PriceRelay.Text.Space
/-!
Instants read from RFC 3339 texts. The reader is lenient: blanks may stand around the parts of date
and time, and years may carry a sign.
-/

namespace PriceRelay

/-- Seconds since the epoch, and nanoseconds; those of a leap second go beyond a billion. -/
structure Instant where
  seconds : Int
  nanos : Nat
  deriving DecidableEq, Repr

namespace Instant

def ofMillis (millis : Nat) : Instant := ⟨millis / 1000, millis % 1000 * 1000000⟩

def isAfter (a b : Instant) : Bool :=
  b.seconds < a.seconds || (a.seconds = b.seconds && b.nanos < a.nanos)

/-- The calendar repeats after 400 years. Years are moved up by this many repetitions, so that they
count from zero. -/
private def repetitions : Nat := 1000

private def secondsOfRepetition : Nat := 146097 * 86400

/-- The first and the last year of instants. -/
def firstYear : Int := -262143
def lastYear : Int := 262142

private def moved (year : Int) : Nat := (year + 400 * (repetitions : Int)).toNat

/-- Seconds since the epoch at the beginning of a year. -/
def startOfYear (year : Int) : Int :=
  (Moment.toSeconds ⟨moved year, 1, 1, 0, 0, 0⟩ : Int) - (secondsOfRepetition * repetitions : Nat)

/-- Does an instant lie in the years of instants? -/
def isInRange (seconds : Int) : Bool :=
  startOfYear firstYear ≤ seconds && seconds < startOfYear (lastYear + 1)

/-- The RFC 3339 text with the given suffix for universal time. -/
def textIn (zone : String) (instant : Instant) : String :=
  let seconds := (instant.seconds + secondsOfRepetition * repetitions).toNat
  let moment := Moment.ofSeconds seconds
  let year : Int := moment.year - 400 * repetitions
  let leap := instant.nanos / 1000000000
  Moment.textWithYear year { moment with second := moment.second + leap }
    (instant.nanos % 1000000000) zone

/-- The short RFC 3339 text. -/
def text (instant : Instant) : String := instant.textIn "Z"

/-- The RFC 3339 text with a numeric offset. -/
def offsetText (instant : Instant) : String := instant.textIn "+00:00"

private def skipSpaces (chars : List Char) : List Char := chars.dropWhile Text.isSpace

/-- A number of one up to `limit` digits. -/
private def number? (limit : Nat) (chars : List Char) : Option (Nat × List Char) :=
  let digits := (chars.take limit).takeWhile Number.isDigit
  if digits.isEmpty then none
  else some (Number.digitsValue digits, chars.drop digits.length)

/-- A character that has to stand next, after spaces. -/
private def expect? (c : Char) (chars : List Char) : Option (List Char) :=
  match skipSpaces chars with
  | d :: rest => if c = d then some rest else none
  | [] => none

/-- A year has four digits, or a sign and any number of them. -/
private def year? (chars : List Char) : Option (Int × List Char) :=
  match skipSpaces chars with
  | '-' :: rest => (number? rest.length rest).map fun (year, rest) => (-(year : Int), rest)
  | '+' :: rest => (number? rest.length rest).map fun (year, rest) => ((year : Int), rest)
  | rest => (number? 4 rest).map fun (year, rest) => ((year : Int), rest)

private def part? (high : Nat) (chars : List Char) : Option (Nat × List Char) := do
  let (value, rest) ← number? 2 (skipSpaces chars)
  if value ≤ high then return (value, rest) else none

/-- Up to nine digits after the point count. -/
private def fraction? (chars : List Char) : Option (Nat × List Char) :=
  match chars with
  | '.' :: rest => do
    let digits := rest.takeWhile Number.isDigit
    let counted := digits.take 9
    if digits.isEmpty then none
    else
      return (Number.digitsValue counted * 10 ^ (9 - counted.length), rest.drop digits.length)
  | _ => some (0, chars)

private def isUpperMatch (c : Char) (upper : Char) : Bool :=
  c = upper || c.toNat = upper.toNat + 32

/-- A shift from universal time in seconds. -/
private def shift? (chars : List Char) : Option (Int × List Char) := do
  match chars with
  | u :: t :: c :: rest =>
    if isUpperMatch u 'U' && isUpperMatch t 'T' && isUpperMatch c 'C' then return (0, rest)
  | _ => pure ()
  match chars with
  | c :: rest =>
    if isUpperMatch c 'Z' then return (0, rest)
    let sign : Int ← if c = '+' then some 1 else if c = '-' || c.toNat = 0x2212 then some (-1)
      else none
    match rest with
    | a :: b :: rest =>
      if !(Number.isDigit a && Number.isDigit b) then none
      let hours := Number.digitsValue [a, b]
      match rest.dropWhile fun c => c = ':' || Text.isSpace c with
      | d :: e :: rest =>
        let minutes := Number.digitsValue [d, e]
        if Number.isDigit d && Number.isDigit e && minutes < 60 && hours < 24 then
          return (sign * (hours * 3600 + minutes * 60 : Nat), rest)
        else none
      | _ => none
    | _ => none
  | [] => none

/-- The instant that a text names. -/
def read? (source : String) : Option Instant := do
  let (year, rest) ← year? source.toList
  let (month, rest) ← part? 12 (← expect? '-' rest)
  let (day, rest) ← part? 31 (← expect? '-' rest)
  let rest ← match rest with
    | c :: rest => if c = ' ' || isUpperMatch c 'T' then some rest else none
    | [] => none
  let (hour, rest) ← part? 23 rest
  let (minute, rest) ← part? 59 (← expect? ':' rest)
  let (second, rest) ← part? 60 (← expect? ':' rest)
  let (nanos, rest) ← fraction? rest
  let (shift, rest) ← shift? (skipSpaces rest)
  if !(skipSpaces rest).isEmpty || month = 0 || day = 0 then none
  if year < firstYear || lastYear < year then none
  let full := moved year
  if Moment.daysInMonth full month < day then none
  let leap := second / 60
  let moment : Moment := ⟨full, month, day, hour, minute, second - leap⟩
  let seconds : Int := moment.toSeconds - (secondsOfRepetition * repetitions : Nat) - shift
  if isInRange seconds then return ⟨seconds, nanos + leap * 1000000000⟩ else none

end Instant

end PriceRelay
