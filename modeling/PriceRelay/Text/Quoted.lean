import PriceRelay.Text.Hidden
/-!
Texts in double quotes, as lists of names are written in messages. What cannot be seen is written as
an escape.
-/

namespace PriceRelay.Text

private def escape (c : Char) : List Char :=
  match c with
  | '"' => ['\\', '"']
  | '\\' => ['\\', '\\']
  | '\n' => ['\\', 'n']
  | '\r' => ['\\', 'r']
  | '\t' => ['\\', 't']
  | c =>
    if c.toNat = 0 then ['\\', '0']
    else if isHidden c then
      ['\\', 'u', '{'] ++ Nat.toDigits 16 c.toNat ++ ['}']
    else [c]

/-- The text in quotes. -/
def quoted (text : String) : String :=
  String.ofList ('"' :: text.toList.flatMap escape ++ ['"'])

/-- Items between brackets. -/
def bracketed (items : List String) : String := "[" ++ ", ".intercalate items ++ "]"

/-- Items between braces. -/
def braced (items : List String) : String :=
  String.singleton '{' ++ ", ".intercalate items ++ String.singleton '}'

/-- A list of quoted names. -/
def quotedList (names : List String) : String := bracketed (names.map quoted)

end PriceRelay.Text
