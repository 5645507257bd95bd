import PriceRelay.Number.Power
/-!
Exact views of binary64 numbers. A finite number is a sign, a natural mantissa and a power of two;
conversions to and from integers go through that view, so no rounding is left to chance.
-/

namespace PriceRelay

/-- A binary64 number taken apart: a finite one is `± mantissa · 2 ^ exponent`. -/
inductive Binary where
  | nan
  | infinite (negative : Bool)
  | finite (negative : Bool) (mantissa : Nat) (exponent : Int)
  deriving DecidableEq, Repr

namespace Binary

/-- The implicit leading bit of a normal number. -/
def leadingBit : Nat := 2 ^ 52

/-- The exponent of the smallest positive number. -/
def minExponent : Int := -1074

/-- Read the sign, exponent and fraction fields of the 64 bits. -/
def ofBits (bits : UInt64) : Binary :=
  let word : Nat := bits.toNat
  let negative := decide (2 ^ 63 ≤ word)
  let biased : Nat := word / 2 ^ 52 % 2 ^ 11
  let fraction : Nat := word % 2 ^ 52
  if biased = 2047 then
    if fraction = 0 then .infinite negative else .nan
  else if biased = 0 then .finite negative fraction minExponent
  else .finite negative (fraction + leadingBit) ((biased : Int) - 1075)

def ofFloat (value : Float) : Binary := ofBits value.toBits

/-- The numerator and denominator of `mantissa · 2 ^ exponent`. -/
def ratio (mantissa : Nat) (exponent : Int) : Nat × Nat :=
  (mantissa * 2 ^ exponent.toNat, 2 ^ (-exponent).toNat)

/-- The magnitude with its fraction dropped. -/
def wholePart (mantissa : Nat) (exponent : Int) : Nat :=
  let (numer, denom) := ratio mantissa exponent
  numer / denom

/-- The magnitude to the nearest integer, a half away from zero. -/
def nearestWhole (mantissa : Nat) (exponent : Int) : Nat :=
  let (numer, denom) := ratio mantissa exponent
  (2 * numer + denom) / (2 * denom)

end Binary

namespace Number

/-- The largest finite binary64 number. -/
def greatest : Float := Float.ofBits 0x7fefffffffffffff

/-- The integer nearest to `count` that binary64 can hold, ties to even. -/
def ofNat (count : Nat) : Float := Float.ofScientific count false 0

/-- Rounding to an integer, a half away from zero; the sign of a zero is kept. -/
def round (value : Float) : Float :=
  match Binary.ofFloat value with
  | .finite negative mantissa exponent =>
    let whole := ofNat (Binary.nearestWhole mantissa exponent)
    if negative then -whole else whole
  | _ => value

/-- Truncation into `[0, limit]`: what lies outside is moved to the nearer end and a value that is
not a number becomes 0. -/
def truncate (limit : Nat) (value : Float) : Nat :=
  match Binary.ofFloat value with
  | .nan => 0
  | .infinite negative => if negative then 0 else limit
  | .finite negative mantissa exponent =>
    if negative then 0 else min limit (Binary.wholePart mantissa exponent)

/-- Powers by repeated squaring, starting from the lowest bit of the exponent. -/
def power (base : Float) (exponent : Nat) : Float :=
  go (exponent.log2 + 1) base exponent 1.0
where
  go : Nat → Float → Nat → Float → Float
    | 0, _, _, acc => acc
    | fuel + 1, base, exponent, acc =>
      let acc := if exponent % 2 = 1 then acc * base else acc
      let rest := exponent / 2
      if rest = 0 then acc else go fuel (base * base) rest acc

/-- The power of ten that scales a value with this many decimals. -/
def tenTo (decimals : Nat) : Float := power 10.0 decimals

/-- The larger of two numbers; one that is not a number never wins. -/
def larger (a b : Float) : Float :=
  if a.isNaN then b else if b.isNaN then a else if a < b then b else a

end Number

end PriceRelay
