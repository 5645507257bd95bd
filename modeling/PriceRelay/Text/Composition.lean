import PriceRelay.Text.Composition.Table
/-!
The composed form of a text: marks are put into a fixed order and joined to the letters before them
wherever a letter with the mark exists. Texts that read the same have the same composed form.
-/

namespace PriceRelay.Text

/-- The place at which a mark is written; letters and signs have class 0. -/
def markClass (code : Nat) : Nat :=
  if code < 0x300 then 0
  else (markClasses.findSome? fun (place, marks) =>
    if marks.has code then some place else none).getD 0

/-! ### Syllables of Hangul, which are counted out instead of listed -/

private def firstSyllable : Nat := 0xac00
private def syllableCount : Nat := 11172
private def firstLead : Nat := 0x1100
private def leadCount : Nat := 19
private def firstVowel : Nat := 0x1161
private def vowelCount : Nat := 21
/-- The code point before the first final consonant. -/
private def noFinal : Nat := 0x11a7
private def finalCount : Nat := 28

private def isSyllable (code : Nat) : Bool :=
  firstSyllable ≤ code && code < firstSyllable + syllableCount

private def syllableParts (code : Nat) : Nat × Nat :=
  let index := code - firstSyllable
  if index % finalCount = 0 then
    (firstLead + index / finalCount / vowelCount, firstVowel + index / finalCount % vowelCount)
  else (code - index % finalCount, noFinal + index % finalCount)

private def syllable? (first second : Nat) : Option Nat :=
  if firstLead ≤ first && first < firstLead + leadCount && firstVowel ≤ second
      && second < firstVowel + vowelCount then
    some (firstSyllable + ((first - firstLead) * vowelCount + (second - firstVowel)) * finalCount)
  else if isSyllable first && (first - firstSyllable) % finalCount = 0 && noFinal < second
      && second < noFinal + finalCount then
    some (first + (second - noFinal))
  else none

/-! ### Parts and wholes -/

/-- The two parts of a composite. -/
def parts? (code : Nat) : Option (Nat × Nat) :=
  if code < 0xc0 then none
  else if isSyllable code then some (syllableParts code)
  else
    match CodeRule.imageIn? composites code with
    | some [first, second] => some (first, second)
    | _ => none

/-- The composite of two parts. -/
def whole? (first second : Nat) : Option Nat :=
  match syllable? first second with
  | some code => some code
  | none => (composites.find? (·.start = [first, second])).map (·.first)

/-- How often the first part of a composite can have parts again. -/
private def nesting : Nat := 4

private def decomposeTo : Nat → Nat → List Nat
  | 0, code => [code]
  | depth + 1, code =>
    match parts? code with
    | some (first, second) => decomposeTo depth first ++ [second]
    | none => [code]

/-- A letter and all its marks. -/
def decompose (code : Nat) : List Nat := decomposeTo nesting code

/-! ### The order of marks -/

/-- Put a code point before others; a mark moves behind the marks of lower classes. -/
def place (code : Nat) : List Nat → List Nat
  | [] => [code]
  | next :: rest =>
    if 0 < markClass next && markClass next < markClass code then next :: place code rest
    else code :: next :: rest

/-- The code points with each run of marks in the order of their classes. -/
def orderMarks (codes : List Nat) : List Nat := codes.foldr place []

/-! ### Joining -/

/-- Join what follows `base` to it. The marks that could not be joined wait, last first, and the
last of them keeps marks of its class and below from joining. -/
def joinTo (base : Nat) (waiting : List Nat) : List Nat → List Nat
  | [] => base :: waiting.reverse
  | code :: rest =>
    let isFree := waiting.head?.all fun mark => markClass mark < markClass code
    match if isFree then whole? base code else none with
    | some whole => joinTo whole waiting rest
    | none =>
      if markClass code = 0 then base :: waiting.reverse ++ joinTo code [] rest
      else joinTo base (code :: waiting) rest

/-- Join marks to the letters before them; marks at the start of the text stay alone. -/
def joinMarks : List Nat → List Nat
  | [] => []
  | code :: rest => if markClass code = 0 then joinTo code [] rest else code :: joinMarks rest

/-- The composed form of a text. -/
def composed (text : List Char) : List Char :=
  (joinMarks (orderMarks (text.flatMap fun c => decompose c.toNat))).map Char.ofNat

end PriceRelay.Text
