import PriceRelay.Text.CodeRanges
/-!
Tables of what characters become, given by words of hexadecimal digits. Behind the colon stands what
the first character becomes, with `+` between several characters:

* `41-5A:61` moves each code point of a range by the same distance;
* `100/12E:101` moves every other code point of a range;
* `B2=B3:32` gives one image to a range;
* `A8:20+308,A9` lists the images of code points that follow one another.
-/

namespace PriceRelay.Text

/-- What every `step`-th code point from `first` to `last` becomes. -/
structure CodeRule where
  first : Nat
  last : Nat
  step : Nat
  /-- The image of the first code point. -/
  start : List Nat
  /-- Does the image move along with the code point? -/
  moves : Bool
  deriving DecidableEq, Repr

namespace CodeRule

def covers (rule : CodeRule) (code : Nat) : Bool :=
  rule.first ≤ code && code ≤ rule.last && (code - rule.first) % rule.step = 0

def image (rule : CodeRule) (code : Nat) : List Nat :=
  if rule.moves then rule.start.map (· + (code - rule.first)) else rule.start

/-- One image, its characters between plus signs. -/
private def imageOfText (text : List Char) : List Nat := (text.splitOnP (· = '+')).map hexValue

/-- The images of code points that follow one another. -/
private def consecutive (code : Nat) : List (List Char) → List CodeRule
  | [] => []
  | text :: rest => ⟨code, code, 1, imageOfText text, false⟩ :: consecutive (code + 1) rest

/-- The rules that a word gives. -/
def listOfWord (word : List Char) : List CodeRule :=
  let source := word.takeWhile (· ≠ ':')
  let target := (word.dropWhile (· ≠ ':')).drop 1
  let ends (mark : Char) : Option (Nat × Nat) :=
    match source.splitOnP (· = mark) with
    | [first, last] => some (hexValue first, hexValue last)
    | _ => none
  match ends '-', ends '/', ends '=' with
  | some (first, last), _, _ => [⟨first, last, 1, imageOfText target, true⟩]
  | _, some (first, last), _ => [⟨first, last, 2, imageOfText target, true⟩]
  | _, _, some (first, last) => [⟨first, last, 1, imageOfText target, false⟩]
  | none, none, none => consecutive (hexValue source) (target.splitOnP (· = ','))

def listOfText (text : String) : List CodeRule := (words text).flatMap listOfWord

/-- The image of a code point by the first rule that covers it. -/
def imageIn? (rules : List CodeRule) (code : Nat) : Option (List Nat) :=
  (rules.find? (·.covers code)).map (·.image code)

end CodeRule

end PriceRelay.Text
