import PriceRelay.Json.Basic
import PriceRelay.Bytes.Hex
/-!
Reading JSON texts. A reader takes what it needs from the front of the characters and returns the
rest.
-/

namespace PriceRelay.Json

private def isBlank (c : Char) : Bool := c = ' ' || c = '\n' || c = '\t' || c = '\r'

private def skipBlanks (chars : List Char) : List Char := chars.dropWhile isBlank

/-- The value of four hexadecimal digits. -/
private def unit? (digits : List Char) : Option Nat := do
  return (← digits.mapM Hex.digitValue?).foldl (fun value digit => value * 16 + digit) 0

private def simpleEscape? : Char → Option Char
  | '"' => some '"'
  | '\\' => some '\\'
  | '/' => some '/'
  | 'b' => some (Char.ofNat 8)
  | 'f' => some (Char.ofNat 12)
  | 'n' => some '\n'
  | 'r' => some '\r'
  | 't' => some '\t'
  | _ => none

/-- One unit of a text: a character, or a 16-bit unit that was escaped. -/
private inductive Piece where
  | plain (c : Char)
  | unit (value : Nat)

/-- The pieces of a text up to its closing quote. -/
private def pieces : List Char → Option (List Piece × List Char)
  | [] => none
  | '"' :: rest => some ([], rest)
  | '\\' :: 'u' :: a :: b :: c :: d :: rest => do
    let value ← unit? [a, b, c, d]
    let (more, rest) ← pieces rest
    return (.unit value :: more, rest)
  | '\\' :: c :: rest => do
    let c ← simpleEscape? c
    let (more, rest) ← pieces rest
    return (.plain c :: more, rest)
  | c :: rest => do
    if c.toNat < 0x20 || c = '\\' then none
    else
      let (more, rest) ← pieces rest
      return (.plain c :: more, rest)

/-- Join surrogate pairs. A unit that is half a pair spells no character. -/
private def join : List Piece → Option (List Char)
  | [] => some []
  | .plain c :: rest => (join rest).map (c :: ·)
  | .unit high :: .unit low :: rest =>
    if 0xd800 ≤ high && high < 0xdc00 then
      if 0xdc00 ≤ low && low < 0xe000 then
        (join rest).map (Char.ofNat (0x10000 + (high - 0xd800) * 0x400 + (low - 0xdc00)) :: ·)
      else none
    else if 0xdc00 ≤ high && high < 0xe000 then none
    else (join (.unit low :: rest)).map (Char.ofNat high :: ·)
  | .unit value :: rest =>
    if 0xd800 ≤ value && value < 0xe000 then none
    else (join rest).map (Char.ofNat value :: ·)

/-- A text after its opening quote; its value is absent where a surrogate stands alone. -/
private def textBody? (chars : List Char) : Option (Option String × List Char) := do
  let (parts, rest) ← pieces chars
  return ((join parts).map String.ofList, rest)

private def digits1? (chars : List Char) : Option (List Char × List Char) :=
  let digits := chars.takeWhile Number.isDigit
  if digits.isEmpty then none else some (digits, chars.dropWhile Number.isDigit)

/-- The digits before the point: a zero stands alone. -/
private def whole? (chars : List Char) : Option (List Char × List Char) := do
  let (digits, rest) ← digits1? chars
  match digits with
  | '0' :: _ :: _ => none
  | _ => return (digits, rest)

private def fraction? (chars : List Char) : Option (Option (List Char) × List Char) :=
  match chars with
  | '.' :: rest => do
    let (digits, rest) ← digits1? rest
    return (some digits, rest)
  | _ => some (none, chars)

private def exponent? (chars : List Char) : Option (Option (Bool × List Char) × List Char) :=
  match chars with
  | c :: rest =>
    if c = 'e' || c = 'E' then do
      let (negative, rest) := match rest with
        | '-' :: more => (true, more)
        | '+' :: more => (false, more)
        | _ => (false, rest)
      let (digits, rest) ← digits1? rest
      return (some (negative, digits), rest)
    else some (none, chars)
  | [] => some (none, [])

private def number? (chars : List Char) : Option (JsonNumber × List Char) := do
  let (negative, chars) := match chars with
    | '-' :: rest => (true, rest)
    | _ => (false, chars)
  let (whole, chars) ← whole? chars
  let (fraction, chars) ← fraction? chars
  let (exponent, chars) ← exponent? chars
  return (⟨negative, whole, fraction, exponent⟩, chars)

private def literal? (word : String) (value : Json) (chars : List Char) :
    Option (Json × List Char) :=
  let letters := word.toList
  if chars.take letters.length = letters then some (value, chars.drop letters.length) else none

mutual

/-- A value; the fuel bounds the number of values and separators. -/
private def value? : Nat → List Char → Option (Json × List Char)
  | 0, _ => none
  | fuel + 1, chars =>
    match skipBlanks chars with
    | '[' :: rest =>
      match skipBlanks rest with
      | ']' :: rest => some (.array [], rest)
      | rest => do
        let (items, rest) ← items? fuel rest
        return (.array items, rest)
    | '{' :: rest =>
      match skipBlanks rest with
      | '}' :: rest => some (.object [], rest)
      | rest => do
        let (members, rest) ← members? fuel rest
        return (.object members, rest)
    | '"' :: rest => do
      let (value, rest) ← textBody? rest
      return (.text value, rest)
    | 'n' :: rest => literal? "ull" .null rest
    | 't' :: rest => literal? "rue" (.bool true) rest
    | 'f' :: rest => literal? "alse" (.bool false) rest
    | rest => (number? rest).map fun (value, rest) => (.number value, rest)

/-- The items of an array up to its bracket. -/
private def items? : Nat → List Char → Option (List Json × List Char)
  | 0, _ => none
  | fuel + 1, chars => do
    let (item, rest) ← value? fuel chars
    match skipBlanks rest with
    | ']' :: rest => return ([item], rest)
    | ',' :: rest =>
      let (items, rest) ← items? fuel rest
      return (item :: items, rest)
    | _ => none

/-- The members of an object up to its brace. -/
private def members? : Nat → List Char → Option (List (Option String × Json) × List Char)
  | 0, _ => none
  | fuel + 1, chars =>
    match skipBlanks chars with
    | '"' :: rest => do
      let (name, rest) ← textBody? rest
      match skipBlanks rest with
      | ':' :: rest =>
        let (value, rest) ← value? fuel rest
        match skipBlanks rest with
        | '}' :: rest => return ([(name, value)], rest)
        | ',' :: rest =>
          let (members, rest) ← members? fuel rest
          return ((name, value) :: members, rest)
        | _ => none
      | _ => none
    | _ => none

end

/-- The document that takes up the whole text. -/
def read? (source : String) : Option Json := do
  let characters := source.toList
  let (value, rest) ← value? (characters.length + 1) characters
  if (skipBlanks rest).isEmpty then some value else none

end PriceRelay.Json
