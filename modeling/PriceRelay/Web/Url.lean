import PriceRelay.Bytes.Utf8
import PriceRelay.Web.Domain
import PriceRelay.Web.NumericHost
/-!
Which texts are absolute URLs. The schemes of the web need a host; other schemes need no more than
their name.
-/

namespace PriceRelay.Url

private def isLetter (c : Char) : Bool := ('a' ≤ c && c ≤ 'z') || ('A' ≤ c && c ≤ 'Z')

private def isDigit (c : Char) : Bool := '0' ≤ c && c ≤ '9'

private def isSchemeChar (c : Char) : Bool := isLetter c || isDigit c || "+-.".toList.contains c

/-- Controls and blanks around a URL do not count, nor do tabs and line ends inside it. -/
def cleaned (text : List Char) : List Char :=
  let blank (c : Char) : Bool := c.toNat ≤ 0x20
  let trimmed := ((text.dropWhile blank).reverse.dropWhile blank).reverse
  trimmed.filter fun c => c ≠ '\t' && c ≠ '\n' && c ≠ '\r'

/-- The scheme, in lower case, and what follows its colon. -/
def scheme? (text : List Char) : Option (String × List Char) :=
  match text with
  | first :: _ =>
    if isLetter first then
      match text.dropWhile isSchemeChar with
      | ':' :: rest => some (String.ofList ((text.takeWhile isSchemeChar).map Char.toLower), rest)
      | _ => none
    else none
  | [] => none

/-- The schemes whose URLs name a host. -/
def hostSchemes : List String := ["http", "https", "ws", "wss", "ftp"]

/-! ### Hosts -/

/-- Replace the bytes that are written as `%` and two digits. -/
def percentDecoded : List Char → Bytes
  | '%' :: high :: low :: rest =>
    match Hex.digitValue? high, Hex.digitValue? low with
    | some high, some low => UInt8.ofNat (16 * high + low) :: percentDecoded rest
    | _, _ => Utf8.encode "%" ++ percentDecoded (high :: low :: rest)
  | c :: rest => Utf8.encode (String.singleton c) ++ percentDecoded rest
  | [] => []

/-- A name that is valid and not empty; one that looks like a numeric address has to be one. -/
def isName (host : List Char) : Bool :=
  match Domain.labels? (Utf8.decodeLossy (percentDecoded host)).toList with
  | some labels =>
    let parts := NumericHost.withoutLastEmpty labels
    labels ≠ [[]] && (!NumericHost.endsInNumber parts || NumericHost.isAddress parts)
  | none => false

/-- A name that means nothing to the web and is kept as it is. -/
def isOpaqueName (host : List Char) : Bool :=
  !host.any fun c => c.toNat = 0 || " \t\n\r#/:<>?@[\\]^|".toList.contains c

/-- A name, or an address in brackets. -/
def isHost (isName : List Char → Bool) (host : List Char) : Bool :=
  match host with
  | '[' :: rest => rest.getLast? = some ']' && NumericHost.isGroups rest.dropLast
  | _ => isName host

/-! ### Users, hosts and sockets -/

/-- The part of a URL that says where to connect. -/
structure Authority where
  /-- What stands before the last `@`. -/
  user? : Option (List Char)
  host : List Char
  /-- What stands behind the first colon that is not inside brackets. -/
  socket? : Option (List Char)

/-- Cut at the first colon outside brackets. -/
private def cutAtSocket (inBrackets : Bool) : List Char → List Char × Option (List Char)
  | [] => ([], none)
  | c :: rest =>
    if c = ':' && !inBrackets then ([], some rest)
    else
      let (host, socket?) := cutAtSocket (c = '[' || (inBrackets && c ≠ ']')) rest
      (c :: host, socket?)

def Authority.ofText (text : List Char) : Authority :=
  let behind := (text.reverse.takeWhile (· ≠ '@')).reverse
  let (host, socket?) := cutAtSocket false behind
  if text.contains '@' then ⟨some (text.take (text.length - behind.length - 1)), host, socket?⟩
  else ⟨none, host, socket?⟩

/-- The number of a socket has 16 bits and may be left out; a backslash ends it. -/
def isSocket (text : List Char) : Bool :=
  (NumericHost.number? 10 (text.takeWhile isDigit)).any (· < 65536)
    && (text.dropWhile isDigit).head?.all (· = '\\')

/-- Does the authority lead to a host of the web? -/
def Authority.isOfWeb (authority : Authority) : Bool :=
  !authority.host.isEmpty && isHost isName authority.host && authority.socket?.all isSocket

/-- Is this an authority of another scheme? The host may be left out, together with its socket, but
not behind a user; a colon alone is no user, and an empty one counts unless the URL ends there. -/
def Authority.isOpaque (authority : Authority) (isLast : Bool) : Bool :=
  if authority.host.isEmpty then
    authority.socket?.isNone
      && authority.user?.all fun user => user = [':'] || (user.isEmpty && isLast)
  else isHost isOpaqueName authority.host && authority.socket?.all isSocket

/-! ### URLs -/

private def isSlash (c : Char) : Bool := c = '/' || c = '\\'

private def endsWebHost (c : Char) : Bool := isSlash c || c = '?' || c = '#'

private def endsOpaqueHost (c : Char) : Bool := c = '/' || c = '?' || c = '#'

/-- A letter for a drive stands in the place of a host. -/
private def isDrive : List Char → Bool
  | [letter, mark] => isLetter letter && (mark = ':' || mark = '|')
  | _ => false

/-- The host of a file, which may be left out and has neither user nor socket. -/
def isFileHost (host : List Char) : Bool := host.isEmpty || isDrive host || isHost isName host

/-- Is this what may follow the scheme of a file? -/
def isFilePlace : List Char → Bool
  | first :: second :: rest =>
    !(isSlash first && isSlash second) || isFileHost (rest.takeWhile (!endsWebHost ·))
  | _ => true

/-- Is this what may follow a scheme that is not of the web? -/
def isOpaquePlace : List Char → Bool
  | '/' :: '/' :: rest =>
    (Authority.ofText (rest.takeWhile (!endsOpaqueHost ·))).isOpaque (!rest.any endsOpaqueHost)
  | _ => true

/-- Is this what may follow a scheme of the web? -/
def isWebPlace (text : List Char) : Bool :=
  (Authority.ofText ((text.dropWhile isSlash).takeWhile (!endsWebHost ·))).isOfWeb

/-- Is this an absolute URL? -/
def isValid (text : String) : Bool :=
  match scheme? (cleaned text.toList) with
  | none => false
  | some (scheme, rest) =>
    if scheme = "file" then isFilePlace rest
    else if hostSchemes.contains scheme then isWebPlace rest
    else isOpaquePlace rest

end PriceRelay.Url
