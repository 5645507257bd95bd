import PriceRelay.Number.Power
/-!
Names in letters and digits that stand for names in any script. The plain characters come first;
each later group of digits is a number in a mixed base that says which character goes where.
-/

namespace PriceRelay.Domain.Punycode

/-- Letters count from 0 to 25 and digits from 26 to 35. -/
def digit? (c : Char) : Option Nat :=
  if 'a' ≤ c && c ≤ 'z' then some (c.toNat - 'a'.toNat)
  else if 'A' ≤ c && c ≤ 'Z' then some (c.toNat - 'A'.toNat)
  else if '0' ≤ c && c ≤ '9' then some (c.toNat - '0'.toNat + 26)
  else none

/-- Numbers above this one make a name invalid. -/
def largest : Nat := 2 ^ 32 - 1

private def checked? (value : Nat) : Option Nat := if value ≤ largest then some value else none

/-- The digit at `position` ends its number if it is below this bound. -/
def threshold (position bias : Nat) : Nat :=
  if position ≤ bias then 1 else if bias + 26 ≤ position then 26 else position - bias

private def shrink (delta shrunk : Nat) : Nat :=
  if 455 < delta then shrink (delta / 35) (shrunk + 36) else shrunk + 36 * delta / (delta + 38)
termination_by delta
decreasing_by exact Nat.div_lt_self (by omega) (by omega)

/-- The bias follows the size of the last number, so that numbers of like size stay short. -/
def adapt (delta count : Nat) (isFirst : Bool) : Nat :=
  let damped := if isFirst then delta / 700 else delta / 2
  shrink (damped + damped / count) 0

/-- Where the reader stands. -/
structure Reader where
  /-- The name so far. -/
  name : List Char
  code : Nat
  index : Nat
  bias : Nat

/-- Insert the next character: the number runs through all places of the name before it moves on to
the next code point. -/
def Reader.insert? (reader : Reader) (index : Nat) : Option Reader := do
  let count := reader.name.length + 1
  let code ← checked? (reader.code + index / count)
  if code.isValidChar then
    let place := index % count
    return ⟨reader.name.take place ++ Char.ofNat code :: reader.name.drop place, code, place + 1,
      adapt (index - reader.index) count (reader.index = 0)⟩
  else none

/-- Read numbers to the end. Inside a number `partly?` holds what it has come to, the weight of the
next digit and its position. -/
def decodeFrom (reader : Reader) (partly? : Option (Nat × Nat × Nat)) : List Char → Option Reader
  | [] => if partly?.isNone then some reader else none
  | c :: rest => do
    let (index, weight, position) := partly?.getD (reader.index, 1, 36)
    let digit ← digit? c
    let index ← checked? (index + (← checked? (digit * weight)))
    let bound := threshold position reader.bias
    if digit < bound then
      decodeFrom (← reader.insert? index) none rest
    else
      decodeFrom reader (some (index, ← checked? (weight * (36 - bound)), position + 36)) rest

/-- The plain characters, and the digits behind the last hyphen. -/
def split (text : List Char) : List Char × List Char :=
  let digits := (text.reverse.takeWhile (· ≠ '-')).reverse
  let plain := text.take (text.length - digits.length - 1)
  if plain.isEmpty then ([], text) else (plain, digits)

/-- The name that a text of letters and digits stands for. -/
def decode? (text : List Char) : Option (List Char) :=
  let (plain, digits) := split text
  if plain.all (·.toNat < 0x80) then
    (decodeFrom ⟨plain.map Char.toLower, 0x80, 0, 72⟩ none digits).map (·.name)
  else none

end PriceRelay.Domain.Punycode
