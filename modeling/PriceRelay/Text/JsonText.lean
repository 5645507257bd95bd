/-!
Texts in JSON: they escape what the format asks for and nothing else.
-/

namespace PriceRelay.Text

private def hexDigit (value : Nat) : Char := (Nat.digitChar value)

private def escapeInJson (c : Char) : List Char :=
  match c with
  | '"' => ['\\', '"']
  | '\\' => ['\\', '\\']
  | '\n' => ['\\', 'n']
  | '\r' => ['\\', 'r']
  | '\t' => ['\\', 't']
  | c =>
    if c.toNat = 8 then ['\\', 'b']
    else if c.toNat = 12 then ['\\', 'f']
    else if c.toNat < 0x20 then
      ['\\', 'u', '0', '0', hexDigit (c.toNat / 16), hexDigit (c.toNat % 16)]
    else [c]

def jsonText (text : String) : String :=
  String.ofList ('"' :: text.toList.flatMap escapeInJson ++ ['"'])

end PriceRelay.Text
