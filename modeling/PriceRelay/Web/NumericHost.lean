import PriceRelay.Bytes.Hex
/-!
Hosts that are given by numbers: up to four numbers between dots, or groups of hexadecimal digits
between colons, which are written in brackets.
-/

namespace PriceRelay.NumericHost

private def isDigit (c : Char) : Bool := '0' ≤ c && c ≤ '9'

/-- The number that digits below `base` write. -/
def number? (base : Nat) (digits : List Char) : Option Nat :=
  digits.foldlM (fun value c => do
    let digit ← Hex.digitValue? c
    if digit < base then return value * base + digit else none) 0

/-! ### Numbers between dots -/

/-- One number: decimal, octal behind `0`, hexadecimal behind `0x`. -/
def part? : List Char → Option Nat
  | [] => none
  | '0' :: 'x' :: digits => number? 16 digits
  | '0' :: 'X' :: digits => number? 16 digits
  | '0' :: digits => number? 8 digits
  | digits => number? 10 digits

/-- One dot at the end does not count. -/
def withoutLastEmpty (parts : List (List Char)) : List (List Char) :=
  match parts.reverse with
  | [] :: more@(_ :: _) => more.reverse
  | _ => parts

/-- Does the last part look like a number? Such a host is no name. -/
def endsInNumber (parts : List (List Char)) : Bool :=
  match parts.getLast? with
  | some last =>
    (!last.isEmpty && last.all isDigit) || (last.take 1 = ['0'] && (part? last).isSome)
  | none => false

/-- Up to four numbers; the last one fills the rest of the address. -/
def isAddress (parts : List (List Char)) : Bool :=
  match parts.mapM part? with
  | some numbers =>
    let count := numbers.length
    0 < count && count ≤ 4 && numbers.dropLast.all (· ≤ 255)
      && numbers.getLast?.any (· < 256 ^ (5 - count))
  | none => false

/-! ### Groups between colons -/

/-- Four decimal numbers of one byte each, without zeros in front. -/
private def isDottedQuad (text : List Char) : Bool :=
  let numbers := text.splitOnP (· = '.')
  numbers.length = 4 && numbers.all fun number =>
    !number.isEmpty && number.all isDigit && (number.length = 1 || number.head? ≠ some '0')
      && (number? 10 number).any (· ≤ 255)

private def isGroup (text : List Char) : Bool :=
  !text.isEmpty && text.length ≤ 4 && text.all fun c => (Hex.digitValue? c).isSome

/-- How many groups a text counts. At the end of the address a dotted quad counts for two. -/
private def groupCount? (isEnd : Bool) (text : List Char) : Option Nat :=
  if text.isEmpty then some 0
  else
    let groups := text.splitOnP (· = ':')
    if groups.all isGroup then some groups.length
    else if isEnd && groups.dropLast.all isGroup && groups.getLast?.any isDottedQuad then
      some (groups.length + 1)
    else none

/-- What stands before and behind the first gap, which is written as two colons. -/
private def gap? (before : List Char) : List Char → Option (List Char × List Char)
  | ':' :: ':' :: after => some (before.reverse, after)
  | c :: rest => gap? (c :: before) rest
  | [] => none

/-- Eight groups, or fewer around one gap. -/
def isGroups (text : List Char) : Bool :=
  match gap? [] text with
  | some (before, after) =>
    match groupCount? false before, groupCount? true after with
    | some before, some after => before + after ≤ 7
    | _, _ => false
  | none => groupCount? true text = some 8

end PriceRelay.NumericHost
