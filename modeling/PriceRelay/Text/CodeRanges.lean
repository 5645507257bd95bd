import PriceRelay.Bytes.Hex
import PriceRelay.Text.Space
/-!
Sets of characters, given by words of hexadecimal digits: `41-5A` is a range of code points, ends
included, and `B5` is one code point.
-/

namespace PriceRelay.Text

/-- Ranges of code points, ends included. -/
abbrev CodeRanges := List (Nat × Nat)

/-- The words of a text, without the blanks between them. -/
def words (text : String) : List (List Char) :=
  (text.toList.splitOnP isSpace).filter (!·.isEmpty)

/-- The value of hexadecimal digits. -/
def hexValue (digits : List Char) : Nat :=
  digits.foldl (fun value c => 16 * value + (Hex.digitValue? c).getD 0) 0

namespace CodeRanges

/-- The range that a word names. -/
def rangeOfWord (word : List Char) : Nat × Nat :=
  match word.splitOnP (· = '-') with
  | [first, last] => (hexValue first, hexValue last)
  | _ => (hexValue word, hexValue word)

def ofText (text : String) : CodeRanges := (words text).map rangeOfWord

def has (ranges : CodeRanges) (code : Nat) : Bool :=
  ranges.any fun range => range.1 ≤ code && code ≤ range.2

end CodeRanges

end PriceRelay.Text
