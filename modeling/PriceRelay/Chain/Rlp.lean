import PriceRelay.Bytes.Basic
/-!
The recursive length format of the chain: byte strings and lists with their lengths in front. Each
value has one written form, and no other is read.
-/

namespace PriceRelay

inductive Rlp where
  | bytes (content : Bytes)
  | list (items : List Rlp)

namespace Rlp

/-- A number, without leading zeros. -/
def natural (value : Nat) : Rlp := .bytes (Bytes.minimal value)

/-- Lengths up to this one share a byte with the kind. -/
def shortLimit : Nat := 55

/-- The length of some content, in front of it. -/
def frame (kind : Nat) (content : Bytes) : Bytes :=
  let length := content.length
  if length ≤ shortLimit then UInt8.ofNat (kind + length) :: content
  else
    let size := Bytes.minimal length
    UInt8.ofNat (kind + shortLimit + size.length) :: size ++ content

/-- The kind of byte strings; a single byte below it stands for itself. -/
def bytesKind : Nat := 0x80

def listKind : Nat := 0xc0

def encodeBytes : Bytes → Bytes
  | [byte] => if byte.toNat < bytesKind then [byte] else frame bytesKind [byte]
  | content => frame bytesKind content

mutual

def encode : Rlp → Bytes
  | .bytes content => encodeBytes content
  | .list items => frame listKind (encodeAll items)

def encodeAll : List Rlp → Bytes
  | [] => []
  | item :: items => encode item ++ encodeAll items

end

/-- The content behind a first byte of a kind, and the rest. -/
def content? (kind first : Nat) (rest : Bytes) : Option (Bytes × Bytes) := do
  let length := first - kind
  if length ≤ shortLimit then Bytes.split? length rest
  else
    let (size, rest) ← Bytes.split? (length - shortLimit) rest
    if size.head? = some 0 || size.toNat ≤ shortLimit then none
    else Bytes.split? size.toNat rest

mutual

/-- One value and the rest. The fuel bounds the number of values. -/
def read? : Nat → Bytes → Option (Rlp × Bytes)
  | 0, _ => none
  | _, [] => none
  | fuel + 1, first :: rest =>
    if first.toNat < bytesKind then some (.bytes [first], rest)
    else if first.toNat < listKind then do
      let (content, rest) ← content? bytesKind first.toNat rest
      match content with
      | [byte] => if byte.toNat < bytesKind then none else return (.bytes content, rest)
      | _ => return (.bytes content, rest)
    else do
      let (content, rest) ← content? listKind first.toNat rest
      return (.list (← readAll? fuel content), rest)

/-- The values that take up all bytes. -/
def readAll? : Nat → Bytes → Option (List Rlp)
  | _, [] => some []
  | 0, _ => none
  | fuel + 1, content => do
    let (item, rest) ← read? fuel content
    return item :: (← readAll? fuel rest)

end

/-- One value and the rest. -/
def decode? (bytes : Bytes) : Option (Rlp × Bytes) := read? (bytes.length + 1) bytes

/-- A number below a bound, without leading zeros. -/
def natural? (bound : Nat) : Rlp → Option Nat
  | .bytes content =>
    if content.head? = some 0 then none
    else
      let value := content.toNat
      if value < bound then some value else none
  | .list _ => none

def fixed? (size : Nat) : Rlp → Option (FixedBytes size)
  | .bytes content => FixedBytes.ofBytes? size content
  | .list _ => none

end Rlp

end PriceRelay
