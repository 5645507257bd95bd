import PriceRelay.Toml.Basic
import PriceRelay.Number.Read
import PriceRelay.Bytes.Hex
/-!
The plain values of TOML: texts in their four quotings, and the words that are numbers, truth values
or dates. Line ends are single line feeds here.
-/

namespace PriceRelay.Toml

/-- Characters that a text or a comment may hold as they are. -/
def isPrintable (c : Char) : Bool := c = '\t' || (0x20 ≤ c.toNat && c.toNat ≠ 0x7f)

def isBlank (c : Char) : Bool := c = ' ' || c = '\t'

def isGap (c : Char) : Bool := isBlank c || c = '\n'

private def simpleEscape? : Char → Option Char
  | '"' => some '"'
  | '\\' => some '\\'
  | 'b' => some (Char.ofNat 8)
  | 't' => some '\t'
  | 'n' => some '\n'
  | 'f' => some (Char.ofNat 12)
  | 'r' => some '\r'
  | _ => none

/-- The character of an escaped code point. -/
private def codePoint? (digits : List Char) : Option Char := do
  let value := (← digits.mapM Hex.digitValue?).foldl (fun value digit => value * 16 + digit) 0
  if value.isValidChar then some (Char.ofNat value) else none

/-- A text in double quotes, after the opening one. In a `long` text, which has three quotes on each
side, line ends may stand, and one that follows a backslash goes with the blanks after it. -/
def escaped? (long : Bool) (chars : List Char) : Option (List Char × List Char) :=
  match chars with
  | [] => none
  | '"' :: rest =>
    if long then
      match rest with
      | '"' :: '"' :: '"' :: '"' :: rest => some (['"', '"'], rest)
      | '"' :: '"' :: '"' :: rest => some (['"'], rest)
      | '"' :: '"' :: rest => some ([], rest)
      | rest => (escaped? long rest).map fun (more, rest) => ('"' :: more, rest)
    else some ([], rest)
  | '\\' :: 'u' :: a :: b :: c :: d :: rest => do
    let c ← codePoint? [a, b, c, d]
    let (more, rest) ← escaped? long rest
    return (c :: more, rest)
  | '\\' :: 'U' :: a :: b :: c :: d :: e :: f :: g :: h :: rest => do
    let c ← codePoint? [a, b, c, d, e, f, g, h]
    let (more, rest) ← escaped? long rest
    return (c :: more, rest)
  | '\\' :: c :: rest =>
    match simpleEscape? c with
    | some c => (escaped? long rest).map fun (more, rest) => (c :: more, rest)
    | none =>
      if long && (((c :: rest).dropWhile isBlank).head? = some '\n') then
        escaped? long ((c :: rest).dropWhile isGap)
      else none
  | c :: rest =>
    if c ≠ '\\' && (isPrintable c || (long && c = '\n')) then
      (escaped? long rest).map fun (more, rest) => (c :: more, rest)
    else none
termination_by chars.length
decreasing_by
  all_goals simp_wf
  all_goals try omega
  have shorter := (List.dropWhile_sublist (l := c :: rest) isGap).length_le
  simp only [List.length_cons] at shorter
  omega

/-- A text in single quotes, after the opening one. It has no escapes. -/
def literal? (long : Bool) : List Char → Option (List Char × List Char)
  | [] => none
  | '\'' :: rest =>
    if long then
      match rest with
      | '\'' :: '\'' :: '\'' :: '\'' :: rest => some (['\'', '\''], rest)
      | '\'' :: '\'' :: '\'' :: rest => some (['\''], rest)
      | '\'' :: '\'' :: rest => some ([], rest)
      | rest => (literal? long rest).map fun (more, rest) => ('\'' :: more, rest)
    else some ([], rest)
  | c :: rest =>
    if isPrintable c || (long && c = '\n') then
      (literal? long rest).map fun (more, rest) => (c :: more, rest)
    else none

/-- A line end right after the opening quotes is left out. -/
private def afterOpening : List Char → List Char
  | '\n' :: rest => rest
  | chars => chars

/-- A text with its quotes, if the characters begin with one. -/
def quoted? : List Char → Option (String × List Char)
  | '"' :: '"' :: '"' :: rest =>
    (escaped? true (afterOpening rest)).map fun (body, rest) => (String.ofList body, rest)
  | '"' :: rest => (escaped? false rest).map fun (body, rest) => (String.ofList body, rest)
  | '\'' :: '\'' :: '\'' :: rest =>
    (literal? true (afterOpening rest)).map fun (body, rest) => (String.ofList body, rest)
  | '\'' :: rest => (literal? false rest).map fun (body, rest) => (String.ofList body, rest)
  | _ => none

/-- Digits with single underscores between them, without the underscores. -/
private def digitRun? (isDigit : Char → Bool) : List Char → Option (List Char)
  | [] => none
  | [c] => if isDigit c then some [c] else none
  | c :: '_' :: rest => if isDigit c then (digitRun? isDigit rest).map (c :: ·) else none
  | c :: rest => if isDigit c then (digitRun? isDigit rest).map (c :: ·) else none

private def splitSign : List Char → Bool × List Char
  | '-' :: rest => (true, rest)
  | '+' :: rest => (false, rest)
  | rest => (false, rest)

/-- A decimal integer has no zeros in front. -/
private def wholeDigits? (chars : List Char) : Option (List Char) := do
  let digits ← digitRun? Number.isDigit chars
  match digits with
  | '0' :: _ :: _ => none
  | _ => return digits

/-- Integers have 64 bits. -/
private def inRange? (value : Int) : Option Toml :=
  if -2 ^ 63 ≤ value && value < 2 ^ 63 then some (.integer value) else none

private def based? (base : Nat) (chars : List Char) : Option Toml := do
  let isDigit c := (Hex.digitValue? c).any (· < base)
  let digits ← (← digitRun? isDigit chars).mapM Hex.digitValue?
  let value : Nat := digits.foldl (fun value digit => value * base + digit) 0
  inRange? value

private def integer? (word : List Char) : Option Toml :=
  match word with
  | '0' :: 'x' :: rest => based? 16 rest
  | '0' :: 'o' :: rest => based? 8 rest
  | '0' :: 'b' :: rest => based? 2 rest
  | _ => do
    let (negative, rest) := splitSign word
    let value : Int := Number.digitsValue (← wholeDigits? rest)
    inRange? (if negative then -value else value)

private def isExponentMark (c : Char) : Bool := c = 'e' || c = 'E'

/-- A whole part with a fraction, an exponent or both. A value too large upwards is refused. -/
private def float? (word : List Char) : Option Toml := do
  let (_, unsigned) := splitSign word
  let mantissa := unsigned.takeWhile fun c => !isExponentMark c
  let _ ← wholeDigits? (mantissa.takeWhile (· ≠ '.'))
  match mantissa.dropWhile (· ≠ '.') with
  | '.' :: fraction =>
    let _ ← digitRun? Number.isDigit fraction
  | _ => pure ()
  match unsigned.dropWhile fun c => !isExponentMark c with
  | _ :: exponent =>
    let _ ← digitRun? Number.isDigit (splitSign exponent).2
  | [] => if mantissa.all (· ≠ '.') then none
  let value ← Number.read? (String.ofList (word.filter (· ≠ '_')))
  if value == 1.0 / 0.0 then none else some (.float value)

private def twoDigits? (low high : Nat) (a b : Char) : Option Nat :=
  if Number.isDigit a && Number.isDigit b then
    let value := Number.digitsValue [a, b]
    if low ≤ value && value ≤ high then some value else none
  else none

/-- `Z` or a shift in hours and minutes. -/
private def isOffset : List Char → Bool
  | ['Z'] | ['z'] => true
  | [sign, a, b, ':', c, d] =>
    (sign = '+' || sign = '-') && (twoDigits? 0 23 a b).isSome && (twoDigits? 0 59 c d).isSome
  | _ => false

/-- What follows the seconds: a fraction, and the offset where one may stand. -/
private def isTimeEnd (offset : Bool) : List Char → Bool
  | '.' :: c :: rest =>
    let rest := rest.dropWhile Number.isDigit
    Number.isDigit c && (rest.isEmpty || (offset && isOffset rest))
  | rest => rest.isEmpty || (offset && isOffset rest)

/-- A time of day. -/
private def isTime (offset : Bool) : List Char → Bool
  | a :: b :: ':' :: c :: d :: ':' :: e :: f :: rest =>
    (twoDigits? 0 23 a b).isSome && (twoDigits? 0 59 c d).isSome && (twoDigits? 0 60 e f).isSome
      && isTimeEnd offset rest
  | _ => false

/-- A date of the calendar, and what follows it. -/
private def date? : List Char → Option (List Char)
  | a :: b :: c :: d :: '-' :: e :: f :: '-' :: g :: h :: rest => do
    let month ← twoDigits? 1 12 e f
    let day ← twoDigits? 1 31 g h
    let year := Number.digitsValue [a, b, c, d]
    if [a, b, c, d].all Number.isDigit && day ≤ Moment.daysInMonth year month then some rest
    else none
  | _ => none

/-- The characters of unquoted values. -/
private def isWordCharacter (c : Char) : Bool :=
  c.isAlphanum || c = '_' || c = '+' || c = '-' || c = '.' || c = ':'

private def named? (word : String) : Option Toml :=
  match word with
  | "true" => some (.bool true)
  | "false" => some (.bool false)
  | "inf" | "+inf" => some (.float (1.0 / 0.0))
  | "-inf" => some (.float (-(1.0 / 0.0)))
  | "nan" | "+nan" | "-nan" => some (.float (0.0 / 0.0))
  | _ => none

/-- An unquoted value. A space may stand between a date and a time. -/
def word? (chars : List Char) : Option (Toml × List Char) :=
  let word := chars.takeWhile isWordCharacter
  let rest := chars.dropWhile isWordCharacter
  match date? word with
  | some [] =>
    match rest with
    | ' ' :: more =>
      if isTime true (more.takeWhile isWordCharacter) then
        some (.date, more.dropWhile isWordCharacter)
      else some (.date, rest)
    | _ => some (.date, rest)
  | some (mark :: time) =>
    if (mark = 'T' || mark = 't') && isTime true time then some (.date, rest) else none
  | none =>
    if isTime false word then some (.date, rest)
    else
      (named? (String.ofList word) <|> integer? word <|> float? word).map fun value => (value, rest)

end PriceRelay.Toml
