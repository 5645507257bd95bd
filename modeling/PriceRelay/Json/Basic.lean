import PriceRelay.Number.Read
/-!
JSON documents as read: numbers keep their written parts, so a reader of integers can refuse a
fraction, and a text that holds half of a surrogate pair is kept as unreadable.
-/

namespace PriceRelay

/-- A number as written. -/
structure JsonNumber where
  negative : Bool
  whole : List Char
  fraction : Option (List Char)
  /-- The sign and the digits of an exponent. -/
  exponent : Option (Bool × List Char)
  deriving DecidableEq, Repr

inductive Json where
  | null
  | bool (value : Bool)
  | number (value : JsonNumber)
  /-- A text, absent where its escapes spell no characters. -/
  | text (value : Option String)
  | array (items : List Json)
  | object (members : List (Option String × Json))
  deriving Repr

namespace JsonNumber

/-- The bound of the unsigned integers that a document may hold exactly. -/
def wordBound : Nat := 2 ^ 64

/-- A non-negative integer below `2 ^ 64`, written without fraction, exponent or sign. -/
def word? (number : JsonNumber) : Option Nat :=
  match number with
  | ⟨false, whole, none, none⟩ =>
    let value := Number.digitsValue whole
    if value < wordBound then some value else none
  | _ => none

/-- The digits that are taken up while they fit a word. The rest is dropped, and counted. -/
def takeUp (significand : Nat) : List Char → Nat × List Char
  | [] => (significand, [])
  | digit :: rest =>
    let next := significand * 10 + (digit.toNat - '0'.toNat)
    if next < wordBound then takeUp next rest else (significand, digit :: rest)

/-- The bound beyond which an exponent is no longer counted. -/
def exponentBound : Nat := 2 ^ 31

/-- Scale by a power of ten in steps that binary64 can hold; out of range is no number. -/
def scaleBy : Nat → Float → Int → Option Float
  | 0, _, _ => none
  | steps + 1, value, exponent =>
    if exponent.natAbs ≤ 308 then
      let power := Number.ofDecimal 1 exponent.natAbs
      if 0 ≤ exponent then
        let scaled := value * power
        if scaled.isInf then none else some scaled
      else some (value / power)
    else if value == 0.0 then some value
    else if 0 ≤ exponent then none
    else scaleBy steps (value / 1e308) (exponent + 308)

/-- The size of a written number that is no plain integer: its leading digits as one integer,
scaled once by a power of ten. -/
private def magnitude? (number : JsonNumber) : Option Float :=
  let (significand, dropped) := takeUp 0 number.whole
  let fraction := number.fraction.getD []
  let (significand, unread) := takeUp significand fraction
  let places := fraction.length - unread.length
  let start : Int := dropped.length - places
  match number.exponent with
  | none => scaleBy 4 (Number.ofNat significand) start
  | some (negative, digits) =>
    let exponent := Number.digitsValue digits
    if exponentBound ≤ exponent then
      if significand ≠ 0 && !negative then none else some 0.0
    else
      let exponent : Int := if negative then start - exponent else start + exponent
      scaleBy (exponent.natAbs / 308 + 2) (Number.ofNat significand) exponent

/-- The binary64 reading of a number. -/
def float? (number : JsonNumber) : Option Float :=
  (magnitude? number).map fun value => if number.negative then -value else value

end JsonNumber

namespace Json

def text? : Json → Option String
  | .text value => value
  | _ => none

def array? : Json → Option (List Json)
  | .array items => some items
  | _ => none

def word? : Json → Option Nat
  | .number value => value.word?
  | _ => none

def float? : Json → Option Float
  | .number value => value.float?
  | _ => none

def byte? (json : Json) : Option UInt8 := do
  let value ← json.word?
  if value < 256 then some (UInt8.ofNat value) else none

/-- What a member of a record may be: absent, or given once. -/
def member (members : List (Option String × Json)) (name : String) : Option Json :=
  (members.find? fun entry => entry.1 = some name).map (·.2)

/-- The members of a record in the order of `names`, each absent or given once; other members are
passed over. A record may also be an array of its members. -/
def record? (names : List String) : Json → Option (List (Option Json))
  | .object members =>
    let known := members.filterMap fun entry => entry.1.filter (names.contains ·)
    if members.any (·.1.isNone) || known.length ≠ known.eraseDups.length then none
    else some (names.map (member members))
  | .array items =>
    if names.length < items.length then none
    else some (items.map some ++ List.replicate (names.length - items.length) none)
  | _ => none

end Json

end PriceRelay
