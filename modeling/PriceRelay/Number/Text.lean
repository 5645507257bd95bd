import PriceRelay.Number.Shortest
/-!
Texts of binary64 numbers: the plain positional text, a fixed number of places, and the scientific
form used inside JSON. All digits come from exact arithmetic.
-/

namespace PriceRelay.Number

private def zeros (count : Nat) : String := String.ofList (List.replicate count '0')

private def signed (negative : Bool) (text : String) : String :=
  if negative then "-" ++ text else text

/-- `digits` with a point `places` digits before its end. -/
private def pointed (digits : Nat) (places : Nat) : String :=
  if places = 0 then toString digits
  else
    let text := toString digits
    let padded := zeros (places + 1 - text.length) ++ text
    let characters := padded.toList
    let whole := characters.length - places
    String.ofList (characters.take whole) ++ "." ++ String.ofList (characters.drop whole)

/-- Positional text of a numeral. -/
private def positional (numeral : Numeral) : String :=
  if 0 ≤ numeral.exponent then toString numeral.digits ++ zeros numeral.exponent.toNat
  else pointed numeral.digits (-numeral.exponent).toNat

/-- The shortest positional text that reads back, without a point for integers: `0.1`, `100`,
`-0`, `NaN`, `inf`. -/
def display (value : Float) : String :=
  match Binary.ofFloat value with
  | .nan => "NaN"
  | .infinite negative => signed negative "inf"
  | .finite negative mantissa exponent =>
    signed negative (positional (Shortest.numeral mantissa exponent))

/-- The quotient to the nearest integer, a half to the even one. -/
def divideToEven (numer denom : Nat) : Nat :=
  let quotient := numer / denom
  let twice := 2 * (numer % denom)
  if denom < twice || (twice = denom && quotient % 2 = 1) then quotient + 1 else quotient

/-- The value to `places` decimal places, a half to the even digit. -/
def fixed (places : Nat) (value : Float) : String :=
  match Binary.ofFloat value with
  | .nan => "NaN"
  | .infinite negative => signed negative "inf"
  | .finite negative mantissa exponent =>
    let (numer, denom) := Binary.ratio mantissa exponent
    signed negative (pointed (divideToEven (numer * 10 ^ places) denom) places)

/-- The number text of JSON, absent for a value that is not finite. Up to sixteen places before the
point and four zeros after it are written out, anything else takes an exponent. -/
def json? (value : Float) : Option String :=
  match Binary.ofFloat value with
  | .nan | .infinite _ => none
  | .finite negative mantissa exponent =>
    some <| signed negative <|
      if mantissa = 0 then "0.0"
      else
        let numeral := Shortest.numeral mantissa exponent
        let text := toString numeral.digits
        let point : Int := text.length + numeral.exponent
        if 0 ≤ numeral.exponent && point ≤ 16 then
          text ++ zeros numeral.exponent.toNat ++ ".0"
        else if -5 < point && point ≤ 16 then positional numeral
        else
          let characters := text.toList
          let fraction := String.ofList (characters.drop 1)
          String.ofList (characters.take 1)
            ++ (if fraction.isEmpty then "" else "." ++ fraction)
            ++ "e" ++ toString (point - 1)

end PriceRelay.Number
