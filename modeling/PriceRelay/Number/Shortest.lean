import PriceRelay.Number.Binary
/-!
The fewest decimal digits that read back as a given binary64 number. Grids of 1, 2, … 17 digits are
tried in turn; on each only the two grid points around the number can read back as it, and of two
that do the nearer is taken.
-/

namespace PriceRelay

/-- A decimal numeral `digits · 10 ^ exponent`. -/
structure Numeral where
  digits : Nat
  exponent : Int
  deriving DecidableEq, Repr

namespace Shortest

/-- A positive rational by numerator and denominator. -/
structure Ratio where
  numer : Nat
  denom : Nat

/-- `digits · 10 ^ exponent` as a rational. -/
def Ratio.ofNumeral (digits : Nat) (exponent : Int) : Ratio :=
  ⟨digits * 10 ^ exponent.toNat, 10 ^ (-exponent).toNat⟩

def Ratio.le (a b : Ratio) : Bool := a.numer * b.denom ≤ b.numer * a.denom

def Ratio.lt (a b : Ratio) : Bool := a.numer * b.denom < b.numer * a.denom

/-- The numbers that round to `mantissa · 2 ^ exponent`; the ends belong to it for an even
mantissa. -/
structure Interval where
  low : Ratio
  high : Ratio
  closed : Bool

def Interval.contains (interval : Interval) (point : Ratio) : Bool :=
  if interval.closed then interval.low.le point && point.le interval.high
  else interval.low.lt point && point.lt interval.high

/-- Half way to the neighbours. Below a power of two the lower neighbour is twice as near. -/
def Interval.around (mantissa : Nat) (exponent : Int) : Interval :=
  let at4 (quarters : Nat) : Ratio :=
    let (numer, denom) := Binary.ratio quarters (exponent - 2)
    ⟨numer, denom⟩
  let narrow := mantissa = Binary.leadingBit && Binary.minExponent < exponent
  { low := at4 (4 * mantissa - (if narrow then 1 else 2))
    high := at4 (4 * mantissa + 2)
    closed := mantissa % 2 = 0 }

/-- The least `e` with `value < 10 ^ e`, looked for around the estimate from the bit lengths. -/
def magnitude (value : Ratio) : Int :=
  let bits : Int := value.numer.log2 - value.denom.log2
  let guess := bits * 30103 / 100000 - 1
  let below (e : Int) : Bool := value.lt (Ratio.ofNumeral 1 e)
  if below guess then guess
  else if below (guess + 1) then guess + 1
  else if below (guess + 2) then guess + 2
  else guess + 3

/-- The grid point of step `10 ^ exponent` that reads back, if one of the two neighbours does. -/
def onGrid (value : Ratio) (interval : Interval) (exponent : Int) : Option Numeral :=
  let step := Ratio.ofNumeral 1 exponent
  let scaledNumer := value.numer * step.denom
  let scaledDenom := value.denom * step.numer
  let lower := scaledNumer / scaledDenom
  let fits (digits : Nat) : Bool := interval.contains (Ratio.ofNumeral digits exponent)
  let twice := 2 * (scaledNumer % scaledDenom)
  let preferUpper := scaledDenom < twice || (twice = scaledDenom && lower % 2 = 1)
  match fits lower && lower ≠ 0, fits (lower + 1) with
  | true, true => some ⟨if preferUpper then lower + 1 else lower, exponent⟩
  | true, false => some ⟨lower, exponent⟩
  | false, true => some ⟨lower + 1, exponent⟩
  | false, false => none

/-- Try the grids of `count`, `count + 1`, … digits. -/
def search (value : Ratio) (interval : Interval) (top : Int) : Nat → Nat → Numeral
  | 0, count => ⟨value.numer / value.denom, top - count⟩
  | fuel + 1, count =>
    match onGrid value interval (top - count) with
    | some numeral => numeral
    | none => search value interval top fuel (count + 1)

/-- Move trailing zeros of the digits into the exponent. -/
def trim : Nat → Numeral → Numeral
  | 0, numeral => numeral
  | fuel + 1, numeral =>
    if numeral.digits ≠ 0 && numeral.digits % 10 = 0 then
      trim fuel ⟨numeral.digits / 10, numeral.exponent + 1⟩
    else numeral

/-- The shortest numeral for `mantissa · 2 ^ exponent`, the nearest of that length. -/
def numeral (mantissa : Nat) (exponent : Int) : Numeral :=
  if mantissa = 0 then ⟨0, 0⟩
  else
    let (numer, denom) := Binary.ratio mantissa exponent
    let value : Ratio := ⟨numer, denom⟩
    trim 20 (search value (Interval.around mantissa exponent) (magnitude value) 17 1)

end Shortest

end PriceRelay
