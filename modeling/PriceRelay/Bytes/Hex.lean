import PriceRelay.Bytes.Basic
/-!
Hexadecimal texts of byte strings and numbers. Written digits are in lower case; both cases and an
absent `0x` are read.
-/

namespace PriceRelay.Hex

/-- The digit of a number below sixteen. -/
def digit (value : Nat) : Char :=
  if value < 10 then Char.ofNat (48 + value) else Char.ofNat (87 + value)

def digitValue? (c : Char) : Option Nat :=
  if '0' ≤ c && c ≤ '9' then some (c.toNat - 48)
  else if 'a' ≤ c && c ≤ 'f' then some (c.toNat - 87)
  else if 'A' ≤ c && c ≤ 'F' then some (c.toNat - 55)
  else none

/-- Two digits for each byte, the high half first. -/
def digits (bytes : Bytes) : List Char :=
  bytes.flatMap fun byte => [digit (byte.toNat / 16), digit (byte.toNat % 16)]

/-- `0x` and the digits. -/
def encode (bytes : Bytes) : String := String.ofList ('0' :: 'x' :: digits bytes)

def ofDigits? : List Char → Option Bytes
  | [] => some []
  | [_] => none
  | high :: low :: rest => do
    let high ← digitValue? high
    let low ← digitValue? low
    let rest ← ofDigits? rest
    return UInt8.ofNat (high * 16 + low) :: rest

/-- An even number of digits, with or without `0x`. -/
def decode? (text : String) : Option Bytes :=
  match text.toList with
  | '0' :: 'x' :: rest => ofDigits? rest
  | all => ofDigits? all

/-- A byte string of a set length. -/
def decodeFixed? (size : Nat) (text : String) : Option (FixedBytes size) := do
  FixedBytes.ofBytes? size (← decode? text)

/-- `0x` and the digits of a number without leading zeros; zero is `0x0`. -/
def quantity (value : Nat) : String := "0x" ++ String.ofList (Nat.toDigits 16 value)

/-- The number that `0x` and at least one digit spell. -/
def quantity? (text : String) : Option Nat :=
  match text.toList with
  | '0' :: 'x' :: first :: rest =>
    (first :: rest).foldlM (fun value c => (digitValue? c).map (16 * value + ·)) 0
  | _ => none

end PriceRelay.Hex

namespace PriceRelay

/-- `0x` and lower-case digits. -/
def FixedBytes.lower {size : Nat} (value : FixedBytes size) : String := Hex.encode value.bytes

end PriceRelay
