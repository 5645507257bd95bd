import PriceRelay.Number.Power
/-!
The written form of one field of a cron expression: a list of points, ranges and steps. A number may
stand between blanks; a star, a step mark and a comma may not be preceded by blanks of their own.
-/

namespace PriceRelay.Cron

/-- What a step may start from. -/
inductive Term where
  | all
  | point (value : Nat)
  | range (first last : Nat)
  | namedRange (first last : String)
  deriving DecidableEq, Repr

/-- One item of a list. -/
inductive Item where
  | term (term : Term)
  | every (term : Term) (step : Nat)
  | named (name : String)
  deriving DecidableEq, Repr

/-- The blanks between fields. -/
def isBlank (c : Char) : Bool := c = ' ' || c = '\t' || c = '\r' || c = '\n'

private def skipBlanks (chars : List Char) : List Char := chars.dropWhile isBlank

private def isLetter (c : Char) : Bool := ('a' ≤ c && c ≤ 'z') || ('A' ≤ c && c ≤ 'Z')

private def isNumeral (c : Char) : Bool := '0' ≤ c && c ≤ '9'

/-- A non-empty run of characters of one kind, between blanks. -/
private def run? (kind : Char → Bool) (chars : List Char) : Option (List Char × List Char) :=
  let chars := skipBlanks chars
  let found := chars.takeWhile kind
  if found.isEmpty then none else some (found, skipBlanks (chars.dropWhile kind))

/-- Numbers are below this bound. -/
def numberBound : Nat := 2 ^ 32

private def number? (chars : List Char) : Option (Nat × List Char) := do
  let (digits, rest) ← run? isNumeral chars
  let value := digits.foldl (fun value c => value * 10 + (c.toNat - '0'.toNat)) 0
  if value < numberBound then some (value, rest) else none

private def name? (chars : List Char) : Option (String × List Char) := do
  let (letters, rest) ← run? isLetter chars
  return (String.ofList letters, rest)

private def mark? (mark : Char) : List Char → Option (List Char)
  | c :: rest => if c = mark then some rest else none
  | [] => none

private def all? (marks : List Char) : List Char → Option (Term × List Char)
  | c :: rest => if marks.contains c then some (.all, rest) else none
  | [] => none

private def range? (chars : List Char) : Option (Term × List Char) := do
  let (first, rest) ← number? chars
  let (last, rest) ← number? (← mark? '-' rest)
  return (.range first last, rest)

private def point? (chars : List Char) : Option (Term × List Char) :=
  (number? chars).map fun (value, rest) => (.point value, rest)

private def namedRange? (chars : List Char) : Option (Term × List Char) := do
  let (first, rest) ← name? chars
  let (last, rest) ← name? (← mark? '-' rest)
  return (.namedRange first last, rest)

private def term? (marks : List Char) (chars : List Char) : Option (Term × List Char) :=
  all? marks chars <|> range? chars <|> point? chars <|> namedRange? chars

private def every? (marks : List Char) (chars : List Char) : Option (Item × List Char) := do
  let (term, rest) ← term? marks chars
  let (step, rest) ← number? (← mark? '/' rest)
  return (.every term step, rest)

private def item? (marks : List Char) (chars : List Char) : Option (Item × List Char) :=
  every? marks chars
    <|> (term? marks chars).map (fun (term, rest) => (.term term, rest))
    <|> (name? chars).map (fun (name, rest) => (.named name, rest))

/-- The items behind commas; a comma with no item behind it is left over. -/
private def moreItems (marks : List Char) : Nat → List Char → List Item × List Char
  | 0, chars => ([], chars)
  | fuel + 1, chars =>
    match (mark? ',' chars).bind (item? marks) with
    | none => ([], chars)
    | some (item, rest) =>
      let (items, rest) := moreItems marks fuel rest
      (item :: items, rest)

/-- The items of a field and what follows it. The marks are the characters that stand for every
value. -/
def field? (marks : List Char) (chars : List Char) : Option (List Item × List Char) := do
  let (item, rest) ← item? marks (skipBlanks chars)
  let (items, rest) := moreItems marks rest.length rest
  return (item :: items, skipBlanks rest)

end PriceRelay.Cron
