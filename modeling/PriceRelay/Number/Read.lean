import PriceRelay.Number.Binary
/-!
Reading decimal texts as binary64 numbers, correctly rounded.
-/

namespace PriceRelay.Number

/-- `digits · 10 ^ exponent`, correctly rounded. Exponents far outside the range of binary64 are
settled without computing the power. -/
def ofDecimal (digits : Nat) (exponent : Int) : Float :=
  let length : Int := digits.log2 * 30103 / 100000 + 1
  if digits = 0 then 0.0
  else if 400 < length + exponent then 1.0 / 0.0
  else if length + exponent < -400 then 0.0
  else if 0 ≤ exponent then Float.ofScientific digits false exponent.toNat
  else Float.ofScientific digits true (-exponent).toNat

def isDigit (c : Char) : Bool := '0' ≤ c && c ≤ '9'

/-- The value of a run of decimal digits. -/
def digitsValue (digits : List Char) : Nat :=
  digits.foldl (fun value c => value * 10 + (c.toNat - '0'.toNat)) 0

/-- A decimal exponent `[+-]?[0-9]+` that takes up the whole text. -/
private def exponent? (text : List Char) : Option Int :=
  let (negative, digits) := match text with
    | '-' :: rest => (true, rest)
    | '+' :: rest => (false, rest)
    | rest => (false, rest)
  if digits.isEmpty || !digits.all isDigit then none
  else
    let value : Int := digitsValue digits
    some (if negative then -value else value)

/-- An unsigned decimal `digits[.digits][e exponent]` with at least one digit. -/
private def unsigned? (text : List Char) : Option Float :=
  let whole := text.takeWhile isDigit
  let rest := text.dropWhile isDigit
  let (fraction, rest) := match rest with
    | '.' :: more => (more.takeWhile isDigit, more.dropWhile isDigit)
    | _ => ([], rest)
  if whole.isEmpty && fraction.isEmpty then none
  else
    let digits := digitsValue (whole ++ fraction)
    let places : Int := fraction.length
    match rest with
    | [] => some (ofDecimal digits (-places))
    | c :: more =>
      if c = 'e' || c = 'E' then
        (exponent? more).map fun exponent => ofDecimal digits (exponent - places)
      else none

private def lowerAscii (c : Char) : Char :=
  if 'A' ≤ c && c ≤ 'Z' then Char.ofNat (c.toNat + 32) else c

/-- A decimal number, `inf`, `infinity` or `nan` in any case, with an optional sign. -/
def read? (text : String) : Option Float :=
  let (negative, body) := match text.toList with
    | '-' :: rest => (true, rest)
    | '+' :: rest => (false, rest)
    | rest => (false, rest)
  let word := String.ofList (body.map lowerAscii)
  let value :=
    if word = "inf" || word = "infinity" then some (1.0 / 0.0)
    else if word = "nan" then some (0.0 / 0.0)
    else unsigned? body
  value.map fun value => if negative then -value else value

end PriceRelay.Number
