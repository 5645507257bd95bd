import PriceRelay.Bytes.Basic
/-!
Text as UTF-8 bytes. Writing is exact; reading replaces each maximal ill-formed part by one
replacement character.
-/

namespace PriceRelay.Utf8

def encode (text : String) : Bytes := text.toUTF8.data.toList

/-- The character that stands for bytes that spell none. -/
def replacement : Char := Char.ofNat 0xfffd

/-- What a lead byte announces: how many bytes follow, the range of the first of them, and the bits
that the lead byte contributes. -/
structure Lead where
  tail : Nat
  low : Nat
  high : Nat
  bits : Nat

/-- The well-formed lead bytes. The ranges leave out overlong forms, surrogates and what lies above
the last code point. -/
def lead? (byte : Nat) : Option Lead :=
  if byte < 0x80 then some ⟨0, 0x80, 0xbf, byte⟩
  else if byte < 0xc2 then none
  else if byte < 0xe0 then some ⟨1, 0x80, 0xbf, byte - 0xc0⟩
  else if byte = 0xe0 then some ⟨2, 0xa0, 0xbf, 0⟩
  else if byte = 0xed then some ⟨2, 0x80, 0x9f, 0xd⟩
  else if byte < 0xf0 then some ⟨2, 0x80, 0xbf, byte - 0xe0⟩
  else if byte = 0xf0 then some ⟨3, 0x90, 0xbf, 0⟩
  else if byte < 0xf4 then some ⟨3, 0x80, 0xbf, byte - 0xf0⟩
  else if byte = 0xf4 then some ⟨3, 0x80, 0x8f, 4⟩
  else none

/-- Where a reader stands: between characters, or owing some continuation bytes. -/
inductive State where
  | start
  | inside (owed low high bits : Nat)

/-- Read one byte that begins a character. -/
def begin (byte : Nat) : List Char × State :=
  match lead? byte with
  | none => ([replacement], .start)
  | some lead =>
    if lead.tail = 0 then ([Char.ofNat lead.bits], .start)
    else ([], .inside lead.tail lead.low lead.high lead.bits)

/-- Read one byte. A byte that cannot continue the character ends it as ill-formed and is then read
as the beginning of the next. -/
def step (state : State) (byte : Nat) : List Char × State :=
  match state with
  | .start => begin byte
  | .inside owed low high bits =>
    if low ≤ byte && byte ≤ high then
      let bits := bits * 64 + (byte - 0x80)
      if owed ≤ 1 then ([Char.ofNat bits], .start)
      else ([], .inside (owed - 1) 0x80 0xbf bits)
    else
      let (characters, next) := begin byte
      (replacement :: characters, next)

def decodeFrom : State → Bytes → List Char
  | .start, [] => []
  | .inside .., [] => [replacement]
  | state, byte :: rest =>
    let (characters, next) := step state byte.toNat
    characters ++ decodeFrom next rest

/-- The text with each maximal ill-formed part replaced. -/
def decodeLossy (bytes : Bytes) : String := String.ofList (decodeFrom .start bytes)

end PriceRelay.Utf8
