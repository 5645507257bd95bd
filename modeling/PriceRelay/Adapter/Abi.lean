import PriceRelay.Bytes.Utf8
import PriceRelay.Crypto.Keccak
/-!
Arguments and results of contract calls. Everything is written in words of 32 bytes; lists and byte
strings are written behind, where their offsets point. Each value has one written form, and no other
is read.
-/

namespace PriceRelay.Abi

/-- The first bytes of a call name the function. -/
def selector (signature : String) : Bytes :=
  (Keccak.digest (Utf8.encode signature)).bytes.take 4

def wordSize : Nat := 32

/-- The values of one word. -/
def wordBound : Nat := 2 ^ 256

def word (value : Nat) : Bytes := Bytes.ofNat wordSize value

def bool (value : Bool) : Bytes := word value.toNat

def address (account : Address) : Bytes := Bytes.padLeft wordSize account.bytes

/-- Zeros behind, up to whole words. -/
def padWords (content : Bytes) : Bytes :=
  Bytes.padRight ((content.length + 31) / wordSize * wordSize) content

/-- A byte string: its length and its content. -/
def bytes (content : Bytes) : Bytes := word content.length ++ padWords content

/-- A list of items of one size: their number and the items. -/
def list (items : List Bytes) : Bytes := word items.length ++ items.flatten

/-- A value that stands behind the one offset to it. -/
def behindOffset (value : Bytes) : Bytes := word wordSize ++ value

/-- The offsets of items that stand one behind the other. -/
def offsets (start : Nat) : List Bytes → List Bytes
  | [] => []
  | item :: items => word start :: offsets (start + item.length) items

/-- A list of items of different sizes: their number, their offsets and the items. -/
def dynamicList (items : List Bytes) : Bytes :=
  word items.length ++ (offsets (wordSize * items.length) items).flatten ++ items.flatten

/-- The words of a byte string of whole words; the fuel bounds their number. -/
def wordsFrom : Nat → Bytes → Option (List Nat)
  | _, [] => some []
  | 0, _ => none
  | fuel + 1, content => do
    let (first, rest) ← Bytes.split? wordSize content
    return first.toNat :: (← wordsFrom fuel rest)

def words? (content : Bytes) : Option (List Nat) := wordsFrom content.length content

/-- A number below a bound, alone. -/
def natural? (bound : Nat) (content : Bytes) : Option Nat := do
  match ← words? content with
  | [value] => if value < bound then return value else none
  | _ => none

/-- The words of a list of items of `size` words each. -/
def list? (size : Nat) (content : Bytes) : Option (List Nat) := do
  match ← words? content with
  | offset :: count :: items =>
    if offset = wordSize && items.length = size * count then return items else none
  | _ => none

end PriceRelay.Abi
