import PriceRelay.Toml.Scalar
/-!
Reading TOML documents line by line. A header decides which table the lines below it add to.
-/

namespace PriceRelay.Toml

/-- How deep values and keys may nest. -/
def nestingLimit : Nat := 80

private def skipBlanks (chars : List Char) : List Char := chars.dropWhile isBlank

/-- The rest of a comment after its `#`. -/
private def skipComment (chars : List Char) : List Char := chars.dropWhile isPrintable

/-- The end of a line, after blanks and a comment. -/
private def lineEnd? (chars : List Char) : Option (List Char) :=
  let rest := match skipBlanks chars with
    | '#' :: more => skipComment more
    | rest => rest
  match rest with
  | [] => some []
  | '\n' :: rest => some rest
  | _ => none

/-- Blanks, comments and line ends between the items of an array. -/
private def skipGaps : Nat → List Char → List Char
  | 0, chars => chars
  | fuel + 1, chars =>
    match chars.dropWhile isGap with
    | '#' :: rest => skipGaps fuel (skipComment rest)
    | rest => rest

private def isKeyCharacter (c : Char) : Bool := c.isAlphanum || c = '_' || c = '-'

/-- One part of a key: bare or in quotes. -/
private def keyPart? (chars : List Char) : Option (String × List Char) :=
  match chars with
  | '"' :: rest => (escaped? false rest).map fun (body, rest) => (String.ofList body, rest)
  | '\'' :: rest => (literal? false rest).map fun (body, rest) => (String.ofList body, rest)
  | _ =>
    let part := chars.takeWhile isKeyCharacter
    if part.isEmpty then none else some (String.ofList part, chars.dropWhile isKeyCharacter)

/-- A key with its dots: the parts before the last, and the last. -/
private def key? : Nat → List Char → Option (List String × String × List Char)
  | 0, _ => none
  | fuel + 1, chars => do
    let (part, rest) ← keyPart? (skipBlanks chars)
    match skipBlanks rest with
    | '.' :: rest =>
      let (path, last, rest) ← key? fuel rest
      return (part :: path, last, rest)
    | rest => return ([], part, rest)

mutual

/-- A value. The depth counts the brackets and braces that may still open. -/
private def value? : Nat → Nat → List Char → Option (Toml × List Char)
  | 0, _, _ => none
  | fuel + 1, depth, chars =>
    match chars with
    | '"' :: _ | '\'' :: _ => (quoted? chars).map fun (body, rest) => (.text body, rest)
    | '[' :: rest =>
      if depth ≤ 1 then none
      else (items? fuel (depth - 1) rest).map fun (items, rest) => (.array false items, rest)
    | '{' :: rest =>
      if depth ≤ 1 then none
      else
        match skipBlanks rest with
        | '}' :: rest => some (.table .inline [], rest)
        | rest => do
          let (members, rest) ← members? fuel (depth - 1) [] rest
          return (.table .inline members, rest)
    | _ => word? chars

/-- The items of an array up to its bracket; a comma may follow the last. -/
private def items? : Nat → Nat → List Char → Option (List Toml × List Char)
  | 0, _, _ => none
  | fuel + 1, depth, chars =>
    match skipGaps fuel chars with
    | ']' :: rest => some ([], rest)
    | rest => do
      let (item, rest) ← value? fuel depth rest
      match skipGaps fuel rest with
      | ',' :: rest =>
        let (items, rest) ← items? fuel depth rest
        return (item :: items, rest)
      | ']' :: rest => return ([item], rest)
      | _ => none

/-- The members of an inline table up to its brace. -/
private def members? : Nat → Nat → Members → List Char → Option (Members × List Char)
  | 0, _, _, _ => none
  | fuel + 1, depth, members, chars => do
    let (path, key, rest) ← key? (nestingLimit - 1) chars
    match rest with
    | '=' :: rest =>
      let (value, rest) ← value? fuel depth (skipBlanks rest)
      let members ← assign members path key value
      match skipBlanks rest with
      | ',' :: rest => members? fuel depth members rest
      | '}' :: rest => return (members, rest)
      | _ => none
    | _ => none

end

/-- A document so far, and the path of the table that lines add to. -/
private structure Progress where
  members : Members
  current : List String

/-- A header after its opening bracket: the path and the name of its table. -/
private def header? (double : Bool) (chars : List Char) :
    Option (List String × String × List Char) := do
  let (path, key, rest) ← key? (nestingLimit - 1) chars
  match double, rest with
  | false, ']' :: rest | true, ']' :: ']' :: rest => return (path, key, ← lineEnd? rest)
  | _, _ => none

/-- Read one line that is neither empty nor a comment. -/
private def line? (progress : Progress) (chars : List Char) : Option (Progress × List Char) :=
  match chars with
  | '[' :: '[' :: rest => do
    let (path, key, rest) ← header? true rest
    return (⟨← openItem progress.members path key, path ++ [key]⟩, rest)
  | '[' :: rest => do
    let (path, key, rest) ← header? false rest
    return (⟨← openTable progress.members path key, path ++ [key]⟩, rest)
  | _ => do
    let (path, key, rest) ← key? (nestingLimit - 1) chars
    match rest with
    | '=' :: rest =>
      let (value, rest) ← value? (rest.length + 1) nestingLimit (skipBlanks rest)
      let add members := assign members path key value
      return (⟨← alter progress.members progress.current add, progress.current⟩, ← lineEnd? rest)
    | _ => none

/-- Read the lines of a document; the fuel bounds their number. -/
private def lines? : Nat → Progress → List Char → Option Members
  | 0, _, _ => none
  | fuel + 1, progress, chars =>
    match skipBlanks chars with
    | [] => some progress.members
    | '\n' :: rest => lines? fuel progress rest
    | '#' :: rest => do lines? fuel progress (← lineEnd? ('#' :: rest))
    | rest => do
      let (progress, rest) ← line? progress rest
      lines? fuel progress rest

/-- Both kinds of line ends as one. -/
def joinLineEnds : List Char → List Char
  | '\r' :: '\n' :: rest => '\n' :: joinLineEnds rest
  | c :: rest => c :: joinLineEnds rest
  | [] => []

/-- A byte order mark may stand in front. -/
private def skipMark : List Char → List Char
  | c :: rest => if c.toNat = 0xfeff then rest else c :: rest
  | [] => []

/-- The members of a document. -/
def read? (source : String) : Option Members :=
  let chars := joinLineEnds (skipMark source.toList)
  lines? (chars.length + 1) ⟨[], []⟩ chars

end PriceRelay.Toml
