import PriceRelay.Text.Composition
import PriceRelay.Text.Direction
import PriceRelay.Text.Joining
import PriceRelay.Web.Domain.Mapping
import PriceRelay.Web.Domain.Punycode
/-!
Labels, the parts of a host's name between dots: how they are read and what each may hold.
-/

namespace PriceRelay.Domain

abbrev Label := List Char

/-- Signs of a URL and blanks are no part of a name. -/
def isDenied (c : Char) : Bool :=
  c.toNat ≤ 0x20 || c.toNat = 0x7f || "%#/:<>?@[\\]^|".toList.contains c

namespace Label

/-- What a label in letters and digits for another script begins with. -/
def encodedMark : List Char := "xn--".toList

/-- Longest text of letters and digits that is decoded. -/
def longestEncoded : Nat := 2000

/-- Longest label of a script other than ASCII. -/
def longestForeign : Nat := 1000

/-- The label that a text stands for. What is decoded has to be in the form that it is compared
in. -/
def ofText? (text : List Char) : Option Label :=
  if text.take 4 = encodedMark then do
    let encoded := text.drop 4
    if encoded.getLast?.all (· = '-') || longestEncoded < encoded.length then none
    let label ← Punycode.decode? encoded
    if label.all isSettled && Text.composed label = label && !label.any isDenied then return label
    else none
  else some text

/-- Joins the nearest letter, transparent marks aside? -/
private def meets (joins : Char → Bool) (chars : List Char) : Bool :=
  ((chars.dropWhile fun c => !joins c && Text.isTransparent c).head?).any joins

/-- The class of the marks that silence the vowel of a letter. -/
private def silencing : Nat := 9

/-- May a joiner stand between these characters, the ones before it last first? -/
def fitsJoiner (joiner : Char) (before after : List Char) : Bool :=
  match before with
  | [] => false
  | previous :: _ =>
    Text.markClass previous.toNat = silencing
      || (joiner.toNat = 0x200c && meets Text.isJoiningNext before
        && meets Text.isJoiningPrevious after)

/-- Does each joiner have a place where it makes a difference? -/
def fitsJoiners (before : List Char) : List Char → Bool
  | [] => true
  | c :: rest => (!isJoiner c || fitsJoiner c before rest) && fitsJoiners (c :: before) rest

def isValid (label : Label) : Bool :=
  !label.head?.any Text.isMark && fitsJoiners [] label
    && (label.all (·.toNat < 0x80) || label.length ≤ longestForeign)

/-- Is the character written from right to left, or a digit inside such writing? -/
def isRightToLeft (c : Char) : Bool :=
  match Text.direction c with
  | .rightToLeft => true
  | .arabicNumber => true
  | _ => false

/-- May a label stand in a name with writing from right to left? It has one direction throughout,
begins with a letter of it and, marks aside, ends with a letter or digit; digits of two kinds do not
mix in writing from right to left. -/
def hasOneDirection (label : Label) : Bool :=
  let directions := (label.map Text.direction).reverse.dropWhile (· = .mark)
  match label.head?.map Text.direction, directions.head? with
  | none, _ => true
  | some .leftToRight, some last =>
    (last = .leftToRight || last = .westernNumber)
      && !directions.contains .rightToLeft && !directions.contains .arabicNumber
  | some .rightToLeft, some last =>
    (last = .rightToLeft || last = .westernNumber || last = .arabicNumber)
      && !directions.contains .leftToRight
      && !(directions.contains .westernNumber && directions.contains .arabicNumber)
  | _, _ => false

end Label

end PriceRelay.Domain
